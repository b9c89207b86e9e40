import LambdaCalc.Value

namespace LambdaCalc

inductive EvalError where
  | unbound (name : String)
  | notCallable (shown : String)
  | arity (expected got : Nat)
  | primitive (name detail : String)
  | depth (limit : Int)
  /-- A host function broke down, or an integer is too long for a message. -/
  | escaped (fault : Fault)
deriving DecidableEq

namespace EvalError

def message? : EvalError → Except Fault String
  | unbound name => .ok ("unbound name '" ++ name ++ "'")
  | notCallable shown => .ok (shown ++ " is not callable")
  | arity expected got => .ok ("expected " ++ toString expected ++ " argument(s), got " ++ toString got)
  | primitive name detail => .ok (name ++ ": " ++ detail)
  | depth limit => (Number.int limit).text?.map fun s => "maximum evaluation depth of " ++ s ++ " exceeded"
  | escaped fault => fault.message?

/-- An error whose message cannot be written is never raised: the fault of writing it is. -/
def raised : EvalError → EvalError
  | escaped fault => escaped fault
  | e =>
    match e.message? with
    | .ok _ => e
    | .error fault => escaped fault

end EvalError

inductive Stop where
  | error (e : EvalError)
  | exhausted
deriving DecidableEq

/-- What a run changes: the log of calls, and the next serial number. -/
structure World where
  calls : List (List Number) := []
  serial : Nat := 0
deriving DecidableEq

abbrev Run (α : Type) := World → Except Stop α × World

namespace Run

variable {α β : Type}

def pure (a : α) : Run α := fun w => (.ok a, w)

def bind (run : Run α) (next : α → Run β) : Run β := fun w =>
  match run w with
  | (.ok a, v) => next a v
  | (.error s, v) => (.error s, v)

def fail (e : EvalError) : Run α := fun w => (.error (.error e), w)

def exhausted : Run α := fun w => (.error .exhausted, w)

def fresh : Run Nat := fun w => (.ok w.serial, { w with serial := w.serial + 1 })

def log (entries : List (List Number)) : Run Unit := fun w =>
  (.ok (), { w with calls := w.calls ++ entries })

def ofExcept : Except EvalError α → Run α
  | .ok a => pure a
  | .error e => fail e

end Run

def numbersOf (name : String) : List Value → Except EvalError (List Number)
  | [] => .ok []
  | .number n :: rest => (numbersOf name rest).map (n :: ·)
  | v :: _ => .error (match v.text? with
    | .ok s => .primitive name ("expected a number, got " ++ s)
    | .error f => .escaped f)

/-- The answer of a host function as a value: only a number in range is accepted. -/
def acceptAnswer (name : String) : Except Fault Host.Answer → Except EvalError Value
  | .error f =>
    if f.isRejection then
      match f.message? with
      | .ok detail => .error (.primitive name detail)
      | .error g => .error (.escaped g)
    else .error (.escaped f)
  | .ok (.object (.ok display)) => .error (.primitive name ("non-numeric result " ++ display))
  | .ok (.object (.error f)) => .error (.escaped f)
  | .ok (.number n) =>
    if n.inRange then .ok (.number n) else .error (.primitive name "result is out of range")

def applyPrimitive (name : String) (host : Host) (args : List Value) : Run Value :=
  (Run.ofExcept (numbersOf name args)).bind fun numbers =>
    (Run.log (host numbers).entries).bind fun _ =>
      Run.ofExcept (acceptAnswer name (host numbers).result)

def notCallable (v : Value) : EvalError :=
  match v.text? with
  | .ok s => .notCallable s
  | .error f => .escaped f

/-- Application; bodies are evaluated by `evalBody`. A closure gets one new frame inside the
environment that it keeps. -/
def applyWith (evalBody : Env → Expr → Run Value) (fn : Value) (args : List Value) : Run Value :=
  match fn with
  | .closure _ parameters body env =>
    if args.length = parameters.length then
      Run.fresh.bind fun serial => evalBody (Env.extend env serial parameters args) body
    else Run.fail (.arity parameters.length args.length)
  | .primitive _ name host => applyPrimitive name host args
  | .number _ => Run.fail (notCallable fn)

def evalAll (evalOne : Expr → Run Value) : List Expr → Run (List Value)
  | [] => Run.pure []
  | e :: es => (evalOne e).bind fun v => (evalAll evalOne es).bind fun vs => Run.pure (v :: vs)

/-- The value of an expression, in at most so many levels. -/
def eval : Nat → Env → Expr → Run Value
  | 0, _, _ => Run.exhausted
  | _ + 1, _, .literal n => Run.pure (.number n)
  | _ + 1, env, .name s =>
    match env.lookup s with
    | some v => Run.pure v
    | none => Run.fail (.unbound s)
  | _ + 1, env, .lambda parameters body =>
    Run.fresh.bind fun serial => Run.pure (.closure serial parameters body env)
  | levels + 1, env, .call operator operands =>
    (eval levels env operator).bind fun fn =>
      (evalAll (eval levels env) operands).bind fun args => applyWith (eval levels) fn args

def levelsFor (room : Nat) (depth limit : Int) : Nat := min (limit - depth).toNat room

/-- Exhausted levels are an error that names the limit, unless it was the room that came to an end. -/
def Run.within {α : Type} (room : Nat) (depth limit : Int) (run : Nat → Run α) : Run α := fun w =>
  match run (levelsFor room depth limit) w with
  | (.error .exhausted, w) =>
    (.error (if (limit - depth).toNat ≤ room then .error (.depth limit) else .exhausted), w)
  | outcome => outcome

def evaluateAt (room : Nat) (depth limit : Int) (env : Env) (e : Expr) : Run Value :=
  Run.within room depth limit fun levels => eval levels env e

def apply (room : Nat) (fn : Value) (args : List Value) (depth limit : Int) : Run Value :=
  Run.within room depth limit fun levels => applyWith (eval levels) fn args

/-- The value of an expression with at most `limit` levels. Where the room comes to an end before, the
limit is named all the same. -/
def evaluate (room : Nat) (limit : Int) (env : Env) (e : Expr) (w : World) :
    Except EvalError Value × World :=
  match evaluateAt room 0 limit env e w with
  | (.ok v, w) => (.ok v, w)
  | (.error (.error e), w) => (.error e, w)
  | (.error .exhausted, w) => (.error (.depth limit), w)

end LambdaCalc
