import LambdaCalc.Expr
import LambdaCalc.Fault

namespace LambdaCalc

/-- What goes wrong outside the language: a tree is too deep to be written or compared, or there is
a fault, as when a number is too long to be written. -/
inductive Breakdown where
  | tooDeep
  | fault (f : Fault)
deriving DecidableEq

def Breakdown.shown : Breakdown → String
  | tooDeep => "RecursionError: maximum recursion depth exceeded"
  | fault f => f.kind.name ++ ": " ++
    match f.message? with
    | .ok text => text
    | .error _ => "<exception str() failed>"

namespace Expr

def isLambda : Expr → Bool
  | lambda _ _ => true
  | _ => false

def parenthesized (text : String) : String := "(" ++ text ++ ")"

def parametersText : List String → String
  | [] => "lambda: "
  | names => "lambda " ++ ", ".intercalate names ++ ": "

mutual

def source : Expr → String
  | literal n => n.text
  | name s => s
  | lambda parameters body => parametersText parameters ++ body.source
  | call operator operands =>
    (if operator.isLambda then parenthesized operator.source else operator.source) ++
      parenthesized (", ".intercalate (sources operands))

def sources : List Expr → List String
  | [] => []
  | e :: es => e.source :: sources es

end

mutual

def construction : Expr → String
  | literal n => "Literal(" ++ n.display ++ ")"
  | name s => "Name(" ++ Text.quoted s ++ ")"
  | lambda parameters body =>
    "LambdaExpr(" ++ Text.bracketed (parameters.map Text.quoted) ++ ", " ++ body.construction ++ ")"
  | call operator operands =>
    "CallExpr(" ++ operator.construction ++ ", " ++ Text.bracketed (constructions operands) ++ ")"

def constructions : List Expr → List String
  | [] => []
  | e :: es => e.construction :: constructions es

end

def indentation (indent : Int) : String := String.ofList (List.replicate (4 * indent.toNat) ' ')

mutual

def tree (indent : Int) : Expr → String
  | literal n => indentation indent ++ "Literal(" ++ n.display ++ ")"
  | name s => indentation indent ++ "Name(" ++ Text.quoted s ++ ")"
  | lambda parameters body =>
    indentation indent ++ "LambdaExpr(" ++ Text.bracketed (parameters.map Text.quoted) ++ ",\n" ++
      body.tree (indent + 1) ++ "\n" ++ indentation indent ++ ")"
  | call operator operands =>
    indentation indent ++ "CallExpr(\n" ++
      ",\n".intercalate (operator.tree (indent + 1) :: trees (indent + 1) operands) ++ "\n" ++
      indentation indent ++ ")"

def trees (indent : Int) : List Expr → List String
  | [] => []
  | e :: es => e.tree indent :: trees indent es

end

def writable (d : Descent) (e : Expr) : Except Breakdown Unit :=
  if !e.fits d then .error .tooDeep
  else if e.literals.all Number.isWritable then .ok ()
  else .error (.fault .tooManyDigits)

def source? (stack : Stack) (e : Expr) : Except Breakdown String :=
  (e.writable stack.source).map fun _ => e.source

def construction? (stack : Stack) (e : Expr) : Except Breakdown String :=
  (e.writable stack.construction).map fun _ => e.construction

def tree? (stack : Stack) (e : Expr) (indent : Int) : Except Breakdown String :=
  (e.writable stack.tree).map fun _ => e.tree indent

/-- Whether two trees are the same, unless that shows only too deep inside them. -/
def same? (stack : Stack) (e f : Expr) : Except Breakdown Bool :=
  match sameWithin stack.comparison stack.comparison.frames e f with
  | some answer => .ok answer
  | none => .error .tooDeep

end Expr

end LambdaCalc
