import LambdaCalc.Eval

namespace LambdaCalc.Substitution

/-- Expressions in which values may stand in place of names. -/
inductive Term (ν : Type) where
  | literal (n : Number)
  | name (identifier : String)
  | lambda (parameters : List String) (body : Term ν)
  | call (operator : Term ν) (operands : List (Term ν))
  | value (v : ν)

/-- Values without frames. A function keeps the root environment that its free names refer to. -/
inductive Closed where
  | number (n : Number)
  | function (root : Env) (parameters : List String) (body : Term Closed)
  | primitive (serial : Nat) (name : String) (host : Host)

def hide {ν : Type} (names : List String) (σ : String → Option ν) : String → Option ν :=
  fun x => if x ∈ names then none else σ x

/-- Parameters stand for the arguments at the same places, a repeated one for the last of them. -/
def paired {ν : Type} (names : List String) (args : List ν) : String → Option ν :=
  fun x => (names.zip args).reverse.lookup x

namespace Term

variable {ν : Type}

mutual

def ofExpr : Expr → Term ν
  | .literal n => literal n
  | .name identifier => name identifier
  | .lambda parameters body => lambda parameters (ofExpr body)
  | .call operator operands => call (ofExpr operator) (ofExprs operands)

def ofExprs : List Expr → List (Term ν)
  | [] => []
  | e :: es => ofExpr e :: ofExprs es

end

mutual

/-- Puts values in place of the free names that `σ` gives values to. -/
def subst (σ : String → Option ν) : Term ν → Term ν
  | literal n => literal n
  | name identifier =>
    match σ identifier with
    | some v => value v
    | none => name identifier
  | lambda parameters body => lambda parameters (body.subst (hide parameters σ))
  | call operator operands => call (operator.subst σ) (substAll σ operands)
  | value v => value v

def substAll (σ : String → Option ν) : List (Term ν) → List (Term ν)
  | [] => []
  | t :: ts => t.subst σ :: substAll σ ts

end

end Term

namespace Closed

/-- A value of the root environment. A closure found there is a function over its own environment. -/
def ofValue : Value → Closed
  | .number n => number n
  | .closure _ parameters body env => function env parameters (Term.ofExpr body)
  | .primitive serial name host => primitive serial name host

def text? : Closed → Except Fault String
  | number n => n.text?
  | function _ _ _ => .ok "<function>"
  | primitive _ name _ => .ok ("<function " ++ name ++ ">")

def numbersOf (name : String) : List Closed → Except EvalError (List Number)
  | [] => .ok []
  | number n :: rest => (numbersOf name rest).map (n :: ·)
  | c :: _ => .error (match c.text? with
    | .ok s => .primitive name ("expected a number, got " ++ s)
    | .error f => .escaped f)

end Closed

abbrev Logged (α : Type) := Except Stop α × List (List Number)

namespace Logged

variable {α β : Type}

def pure (a : α) : Logged α := (.ok a, [])

def fail (e : EvalError) : Logged α := (.error (.error e), [])

def exhausted : Logged α := (.error .exhausted, [])

def ofExcept : Except EvalError α → Logged α
  | .ok a => pure a
  | .error e => fail e

def bind (x : Logged α) (next : α → Logged β) : Logged β :=
  match x with
  | (.ok a, calls) => ((next a).1, calls ++ (next a).2)
  | (.error s, calls) => (.error s, calls)

end Logged

def applyPrimitive (name : String) (host : Host) (args : List Closed) : Logged Closed :=
  (Logged.ofExcept (Closed.numbersOf name args)).bind fun numbers =>
    Logged.bind (.ok (), (host numbers).entries) fun _ =>
      Logged.ofExcept ((acceptAnswer name (host numbers).result).map Closed.ofValue)

def applyWith (evalBody : Env → Term Closed → Logged Closed) (fn : Closed) (args : List Closed) :
    Logged Closed :=
  match fn with
  | .function root parameters body =>
    if args.length = parameters.length then evalBody root (body.subst (paired parameters args))
    else Logged.fail (.arity parameters.length args.length)
  | .primitive _ name host => applyPrimitive name host args
  | .number n => Logged.fail (notCallable (.number n))

def evalAll (evalOne : Term Closed → Logged Closed) : List (Term Closed) → Logged (List Closed)
  | [] => Logged.pure []
  | t :: ts =>
    (evalOne t).bind fun c => (evalAll evalOne ts).bind fun cs => Logged.pure (c :: cs)

def eval : Nat → Env → Term Closed → Logged Closed
  | 0, _, _ => Logged.exhausted
  | _ + 1, _, .literal n => Logged.pure (.number n)
  | _ + 1, root, .name identifier =>
    match root.lookup identifier with
    | some v => Logged.pure (Closed.ofValue v)
    | none => Logged.fail (.unbound identifier)
  | _ + 1, root, .lambda parameters body => Logged.pure (.function root parameters body)
  | _ + 1, _, .value v => Logged.pure v
  | levels + 1, root, .call operator operands =>
    (eval levels root operator).bind fun fn =>
      (evalAll (eval levels root) operands).bind fun args => applyWith (eval levels) fn args

def evaluate (room : Nat) (limit : Int) (root : Env) (e : Expr) : Except EvalError Closed × List (List Number) :=
  match eval (levelsFor room 0 limit) root (Term.ofExpr e) with
  | (.ok c, calls) => (.ok c, calls)
  | (.error (.error e), calls) => (.error e, calls)
  | (.error .exhausted, calls) => (.error (.depth limit), calls)

end LambdaCalc.Substitution
