import LambdaCalc.Interpreter

namespace LambdaCalc

inductive Item where
  | nothing
  | expr (e : Expr)
  | value (v : Value)

namespace Item

def ofRead : Option Expr → Item
  | none => nothing
  | some e => expr e

def construction? (stack : Stack) : Item → Except Breakdown String
  | nothing => .ok "None"
  | expr e => e.construction? stack
  | value v => v.construction? stack

def refusal (stack : Stack) (item : Item) (complaint : String) : Breakdown :=
  match item.construction? stack with
  | .ok s => .fault (.raised .type (complaint ++ s))
  | .error b => b

def tree? (stack : Stack) (item : Item) (indent : Int) : Except Breakdown String :=
  match item with
  | expr e => e.tree? stack indent
  | _ => .error (item.refusal stack "Not an expression: ")

def text? (stack : Stack) (item : Item) : Except Breakdown String :=
  match item with
  | value v => v.text?.mapError .fault
  | _ => .error (item.refusal stack "Not a value: ")

def evaluate (stack : Stack) (item : Item) (limit : Int) (env : Env) (w : World) :
    Except Failure Value × World :=
  match item with
  | expr e =>
    match LambdaCalc.evaluate stack.levels limit env e w with
    | (.ok v, w) => (.ok v, w)
    | (.error e, w) => (.error (.eval e.raised), w)
  | _ =>
    if levelsFor stack.levels 0 limit = 0 then (.error (.eval (EvalError.depth limit).raised), w)
    else (.error (.breakdown (item.refusal stack "Cannot evaluate ")), w)

end Item

end LambdaCalc
