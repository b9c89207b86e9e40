import LambdaCalc.Expr.Text
import LambdaCalc.Host

namespace LambdaCalc

/-- The variables of one scope, each name once, in the order in which the names came. -/
structure Frame (α : Type) where
  serial : Nat
  vars : List (String × α)

/-- Functions carry the serial number that tells them from all others made in the same run. -/
inductive Value where
  | number (n : Number)
  | closure (serial : Nat) (parameters : List String) (body : Expr) (env : List (Frame Value))
  | primitive (serial : Nat) (name : String) (host : Host)

abbrev Env := List (Frame Value)

namespace Frame

variable {α : Type}

/-- Sets a variable: a name that is there keeps its place, a new one goes to the end. -/
def assign (vars : List (String × α)) (name : String) (value : α) : List (String × α) :=
  match vars with
  | [] => [(name, value)]
  | (k, old) :: rest => if k = name then (k, value) :: rest else (k, old) :: assign rest name value

/-- The last value of a repeated name counts. -/
def ofPairs (serial : Nat) (pairs : List (String × α)) : Frame α :=
  ⟨serial, pairs.foldl (fun vars p => assign vars p.1 p.2) []⟩

def get? (frame : Frame α) (name : String) : Option α := frame.vars.lookup name

def binds (frame : Frame α) (name : String) : Bool := (frame.get? name).isSome

end Frame

namespace Value

/-- Numbers are the same by value, functions only if they are one and the same. -/
def same : Value → Value → Bool
  | number m, number n => m.equals n
  | closure s _ _ _, closure t _ _ _ => s == t
  | primitive s _ _, primitive t _ _ => s == t
  | _, _ => false

def text? : Value → Except Fault String
  | number n => n.text?
  | closure _ _ _ _ => .ok "<function>"
  | primitive _ name _ => .ok ("<function " ++ name ++ ">")

def construction? (stack : Stack) : Value → Except Breakdown String
  | number n => (n.display?.mapError .fault).map fun s => "Number(value=" ++ s ++ ")"
  | closure _ parameters body _ => (body.construction? stack).map fun s =>
    "Closure(parameters=" ++ Text.tupled (parameters.map Text.quoted) ++ ", body=" ++ s ++ ")"
  | primitive _ name _ => .ok ("Primitive(name=" ++ Text.quoted name ++ ")")

end Value

namespace Env

def find? (env : Env) (name : String) : Option (Frame Value) := List.find? (·.binds name) env

/-- Whether there is a binding; only a text can be a name. -/
def contains (env : Env) (name : Option String) : Bool := (name.bind fun s => env.find? s).isSome

def lookup (env : Env) (name : String) : Option Value := (env.find? name).bind (·.get? name)

/-- A new frame inside `env`; names without a value and values without a name are left out. -/
def extend (env : Env) (serial : Nat) (names : List String) (values : List Value) : Env :=
  Frame.ofPairs serial (names.zip values) :: env

/-- A frame of primitives, numbered from `serial`, the frame itself last. -/
def ofTable (serial : Nat) (table : List (String × Host)) : Env :=
  let hosts := (Frame.ofPairs 0 table).vars
  let primitives := hosts.zipIdx.map fun ((name, host), i) =>
    (name, Value.primitive (serial + i) name host)
  [⟨serial + hosts.length, primitives⟩]

end Env

namespace Frame

def text? (frame : Frame Value) : Except Fault String :=
  (frame.vars.mapM fun var => (Value.text? var.2).map fun s => var.1 ++ ": " ++ s).map fun items =>
    "\x7b" ++ ", ".intercalate items ++ "\x7d"

end Frame

namespace Env

def text? : Env → Except Fault String
  | [] => .ok "\x7b\x7d"
  | [frame] => frame.text?
  | frame :: _ => frame.text?.map (· ++ " -> ...")

def chainText? (env : Env) : Except Fault String :=
  (env.mapM Frame.text?).map fun frames => "<Environment chain: " ++ " -> ".intercalate frames ++ ">"

end Env

end LambdaCalc
