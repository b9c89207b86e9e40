import LambdaCalc.Eval
import LambdaCalc.Expr.Reader
import LambdaCalc.Host.Primitives

namespace LambdaCalc

inductive Failure where
  | read (e : ReadError)
  | eval (e : EvalError)
  | breakdown (b : Breakdown)
deriving DecidableEq

namespace Failure

def message? : Failure → Except Fault String
  | read e => .ok e.message
  | eval e => e.message?
  | breakdown .tooDeep => .ok "maximum recursion depth exceeded"
  | breakdown (.fault f) => f.message?

/-- The name under which the language reports a failure; breakdowns are not reported. -/
def kind? : Failure → Except Breakdown String
  | read _ => .ok "CombinatorSyntaxError"
  | eval (.unbound _) => .ok "CombinatorUnboundName"
  | eval (.notCallable _) => .ok "CombinatorNotCallable"
  | eval (.arity _ _) => .ok "CombinatorArityError"
  | eval (.primitive _ _) => .ok "CombinatorPrimitiveError"
  | eval (.depth _) => .ok "CombinatorRecursionError"
  | eval (.escaped fault) => .error (.fault fault)
  | breakdown b => .error b

end Failure

def evaluateSource (stack : Stack) (limit : Int) (env : Env) (source : String) (w : World) :
    Except Failure (Option Value) × World :=
  match Expr.read stack.reading source with
  | .error e => (.error (.read e), w)
  | .ok none => (.ok none, w)
  | .ok (some e) =>
    match evaluate stack.levels limit env e w with
    | (.ok v, w) => (.ok (some v), w)
    | (.error e, w) => (.error (.eval e.raised), w)

/-- A root environment, a depth limit and the host's stack. Every evaluation starts in the same world, so
that none can tell what was evaluated before. -/
structure Interpreter where
  env : Env
  limit : Int
  stack : Stack
  world : World := {}

namespace Interpreter

def ofTable (stack : Stack) (table : List (String × Host)) (limit : Int) : Interpreter :=
  { env := Env.ofTable 0 table, limit := limit, stack := stack, world := { serial := table.length + 1 } }

def default (stack : Stack) (limit : Int) : Interpreter := ofTable stack Host.primitives limit

def eval (i : Interpreter) (source : String) : Except Failure (Option Value) × World :=
  evaluateSource i.stack i.limit i.env source i.world

end Interpreter

end LambdaCalc
