import LambdaCalc.Interpreter
import LambdaCalc.Host.Stock

namespace LambdaCalc

/-- Named environments and named results. A frame is known by the first name that it was given. -/
structure Workspace where
  stack : Stack
  world : World := {}
  envs : List (String × Env) := []
  labels : List (Nat × String) := []
  /-- A blank text has no value, but may be named. -/
  values : List (String × Option Value) := []

namespace Workspace

inductive Operand where
  | number (n : Number)
  | ref (name : String)
  | primitive (name : String) (host : Host)

inductive Command where
  | frame (name : String) (bindings : List (String × Operand)) (outer : Option String)
  | extend (env : String) (names : List String) (values : List Operand) (name : String)
  | capture (value : String) (name : String)
  | lookup (env : String) (name : String)
  | find (env : String) (name : String)
  | contains (env : String) (name : Option String)
  | frames (env : String)
  | outer (env : String)
  | vars (env : String)
  | text (env : String)
  | chain (env : String)
  | value (operand : Operand) (name : String)
  | eval (source : String) (env : String) (limit : Int) (name : Option String)
  | apply (fn : Operand) (args : List Operand) (depth limit : Int) (name : Option String)
  | same (a b : Operand)

inductive Answer where
  | value (v : Option Value)
  | text (s : String)
  | label (name : Option String)
  | labels (names : List String)
  | flag (b : Bool)
  | vars (pairs : List (String × String))
  | captured (known : String) (text : String)

def ofTable (stack : Stack) (table : List (String × Host)) : Workspace :=
  let env := Env.ofTable 0 table
  { stack := stack
    world := { serial := table.length + 1 }
    envs := [("root", env)]
    labels := env.map fun frame => (frame.serial, "root") }

def label (w : Workspace) (frame : Frame Value) : String :=
  (w.labels.lookup frame.serial).getD "?"

def missing (name : String) : Failure := .breakdown (.fault (.raised .key name))

def env? (w : Workspace) (name : String) : Except Failure Env :=
  match w.envs.lookup name with
  | some env => .ok env
  | none => .error (missing name)

def value? (w : Workspace) (name : String) : Except Failure (Option Value) :=
  match w.values.lookup name with
  | some v => .ok v
  | none => .error (missing name)

/-- Names an environment; its innermost frame keeps an earlier name. -/
def nameEnv (w : Workspace) (name : String) (env : Env) : Workspace :=
  let labels := match env.head? with
    | some frame =>
      if (w.labels.lookup frame.serial).isSome then w.labels else (frame.serial, name) :: w.labels
    | none => w.labels
  { w with envs := (name, env) :: w.envs, labels := labels }

def nameValue (w : Workspace) (name : Option String) (v : Option Value) : Workspace :=
  match name with
  | some s => { w with values := (s, v) :: w.values }
  | none => w

def fresh (w : Workspace) : Nat × Workspace :=
  (w.world.serial, { w with world := { w.world with serial := w.world.serial + 1 } })

/-- The value of an operand, if it has one. Each NaN that is written out is one of its own. -/
def resolve (w : Workspace) : Operand → Except Failure (Option Value) × Workspace
  | .ref name => (w.value? name, w)
  | .primitive name host =>
    let (serial, w) := w.fresh
    (.ok (some (.primitive serial name host)), w)
  | .number (.float (.nan _)) =>
    let (serial, w) := w.fresh
    (.ok (some (.number (.float (.nan serial)))), w)
  | .number n => (.ok (some (.number n)), w)

def resolveAll (w : Workspace) : List Operand → Except Failure (List Value) × Workspace
  | [] => (.ok [], w)
  | operand :: rest =>
    match w.resolve operand with
    | (.error e, w) => (.error e, w)
    | (.ok none, w) => (.error (.breakdown (.fault (.raised .type "None is no value"))), w)
    | (.ok (some v), w) =>
      match w.resolveAll rest with
      | (.error e, w) => (.error e, w)
      | (.ok vs, w) => (.ok (v :: vs), w)

def faulty {α : Type} (result : Except Fault α) : Except Failure α :=
  result.mapError fun f => .breakdown (.fault f)

/-- A new frame inside `outer`. All operands count, also those without a name of their own. -/
def makeFrame (w : Workspace) (name : String) (names : List String) (operands : List Operand)
    (outer : Env) : Except Failure Answer × Workspace :=
  match w.resolveAll operands with
  | (.error e, w) => (.error e, w)
  | (.ok values, w) =>
    let (serial, w) := w.fresh
    let env := Env.extend outer serial names values
    (faulty (env.text?.map .text), w.nameEnv name env)

def captureEnv (w : Workspace) (value name : String) : Except Failure Answer × Workspace :=
  match w.value? value with
  | .ok (some (.closure _ _ _ env)) =>
    let known := (env.head?.map w.label).getD "?"
    (faulty ((Env.text? env).map (.captured known)), w.nameEnv name env)
  | .ok _ => (.error (missing value), w)
  | .error e => (.error e, w)

def evalSource (w : Workspace) (source : String) (env : Env) (limit : Int) (name : Option String) :
    Except Failure Answer × Workspace :=
  match evaluateSource w.stack limit env source w.world with
  | (.ok v, world) => (.ok (.value v), { w with world := world }.nameValue name v)
  | (.error e, world) => (.error e, { w with world := world })

def applyValue (w : Workspace) (fn : Value) (args : List Value) (depth limit : Int)
    (name : Option String) : Except Failure Answer × Workspace :=
  match LambdaCalc.apply w.stack.levels fn args depth limit w.world with
  | (.ok v, world) => (.ok (.value v), { w with world := world }.nameValue name v)
  | (.error (.error e), world) => (.error (.eval e.raised), { w with world := world })
  | (.error .exhausted, world) => (.error (.breakdown .tooDeep), { w with world := world })

def inspect (w : Workspace) (env : String) (look : Env → Except Failure Answer) :
    Except Failure Answer × Workspace :=
  ((w.env? env).bind look, w)

def lookIn (env : Env) (name : String) : Except Failure Answer :=
  match env.lookup name with
  | some v => .ok (.value v)
  | none => .error (.eval (.unbound name))

def varTexts (env : Env) : Except Failure Answer :=
  match env.head? with
  | none => .ok (.vars [])
  | some frame =>
    faulty ((frame.vars.mapM fun var => (Value.text? var.2).map fun s => (var.1, s)).map .vars)

def sameResult : Option Value → Option Value → Bool
  | some u, some v => u.same v
  | none, none => true
  | _, _ => false

def run (w : Workspace) : Command → Except Failure Answer × Workspace
  | .frame name bindings none => w.makeFrame name (bindings.map (·.1)) (bindings.map (·.2)) []
  | .frame name bindings (some outer) =>
    match w.env? outer with
    | .ok env => w.makeFrame name (bindings.map (·.1)) (bindings.map (·.2)) env
    | .error e => (.error e, w)
  | .extend env names values name =>
    match w.env? env with
    | .ok env => w.makeFrame name names values env
    | .error e => (.error e, w)
  | .capture value name => w.captureEnv value name
  | .lookup env name => w.inspect env fun env => lookIn env name
  | .find env name => w.inspect env fun env => .ok (.label ((env.find? name).map w.label))
  | .contains env name => w.inspect env fun env => .ok (.flag (env.contains name))
  | .frames env => w.inspect env fun env => .ok (.labels (env.map w.label))
  | .outer env => w.inspect env fun env => .ok (.label (env.tail.head?.map w.label))
  | .vars env => w.inspect env varTexts
  | .text env => w.inspect env fun env => faulty (env.text?.map .text)
  | .chain env => w.inspect env fun env => faulty (env.chainText?.map .text)
  | .value operand name =>
    match w.resolve operand with
    | (.ok v, w) => (.ok (.value v), w.nameValue (some name) v)
    | (.error e, w) => (.error e, w)
  | .eval source env limit name =>
    match w.env? env with
    | .ok env => w.evalSource source env limit name
    | .error e => (.error e, w)
  | .apply fn args depth limit name =>
    match w.resolve fn with
    | (.error e, w) => (.error e, w)
    | (.ok fn, w) =>
      match w.resolveAll args with
      | (.error e, w) => (.error e, w)
      | (.ok args, w) =>
        match fn with
        | some fn => w.applyValue fn args depth limit name
        | none => (.error (.eval (.notCallable "None")), w)
  | .same a b =>
    match w.resolve a with
    | (.error e, w) => (.error e, w)
    | (.ok a, w) =>
      match w.resolve b with
      | (.error e, w) => (.error e, w)
      | (.ok b, w) => (.ok (.flag (sameResult a b)), w)

def step (w : Workspace) (command : Command) : Except Failure Answer × Workspace :=
  { w with world := { w.world with calls := [] } }.run command

end Workspace

end LambdaCalc
