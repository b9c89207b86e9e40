import LambdaCalc.Number
import LambdaCalc.Stack

namespace LambdaCalc

inductive Expr where
  | literal (value : Number)
  | name (identifier : String)
  | lambda (parameters : List String) (body : Expr)
  | call (operator : Expr) (operands : List Expr)

namespace Expr

mutual

def frames (d : Descent) : Expr → Nat
  | literal _ => 1
  | name _ => 1
  | lambda _ body => body.frames d + d.body
  | call operator operands => max (operator.frames d + d.operator) (framesAll d operands + d.operand)

def framesAll (d : Descent) : List Expr → Nat
  | [] => 0
  | e :: es => max (e.frames d) (framesAll d es)

end

def fits (d : Descent) (e : Expr) : Bool := e.frames d ≤ d.frames

mutual

def literals : Expr → List Number
  | literal n => [n]
  | name _ => []
  | lambda _ body => body.literals
  | call operator operands => operator.literals ++ literalsAll operands

def literalsAll : List Expr → List Number
  | [] => []
  | e :: es => e.literals ++ literalsAll es

end

mutual

/-- Whether two trees are the same, with literals compared by value, in at most `left` frames. Parts are
compared in order, so a difference that comes first decides. -/
def sameWithin (d : Descent) (left : Nat) : Expr → Expr → Option Bool
  | literal m, literal n => some (m.equals n)
  | name s, name t => some (s == t)
  | lambda ps body, lambda qs other =>
    if left ≤ d.body then none
    else if ps == qs then sameWithin d (left - d.body) body other
    else some false
  | call f as, call g bs =>
    if left ≤ d.operator then none
    else
      match sameWithin d (left - d.operator) f g with
      | some true => sameAllWithin d (left - d.operand) as bs
      | answer => answer
  | _, _ => some false

def sameAllWithin (d : Descent) (left : Nat) : List Expr → List Expr → Option Bool
  | [], [] => some true
  | e :: es, f :: fs =>
    if left = 0 then none
    else
      match sameWithin d left e f with
      | some true => sameAllWithin d left es fs
      | answer => answer
  | _, _ => some false

end

end Expr

end LambdaCalc
