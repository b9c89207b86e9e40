import LambdaCalc.Host
import LambdaCalc.Number.Arith

namespace LambdaCalc.Host

def unary (name : String) (f : Number → Except Fault Number) : Host := ofFunction fun args =>
  match args with
  | [a] => f a
  | _ => .error (.arity name 1 args.length)

def binary (name : String) (f : Number → Number → Except Fault Number) : Host :=
  ofFunction fun args =>
    match args with
    | [a, b] => f a b
    | _ => .error (.arity name 2 args.length)

def choice (name : String) (f : Number → List Number → Number) : Host := ofFunction fun args =>
  match args with
  | [] => .error (.noArgument name)
  | a :: rest => .ok (f a rest)

def primitives : List (String × Host) :=
  [("abs", unary "abs" fun a => .ok a.abs),
   ("add", binary "add" Number.add),
   ("float", unary "float" fun a => a.toFloat.map .float),
   ("floordiv", binary "floordiv" Number.floorDiv),
   ("int", unary "int" Number.truncate),
   ("max", choice "max" Number.greatest),
   ("min", choice "min" Number.least),
   ("mod", binary "mod" Number.mod),
   ("mul", binary "mul" Number.mul),
   ("pow", binary "pow" Number.pow),
   ("sub", binary "sub" Number.sub),
   ("truediv", binary "truediv" Number.trueDiv)]

end LambdaCalc.Host
