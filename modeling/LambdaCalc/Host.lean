import LambdaCalc.Fault

namespace LambdaCalc

namespace Host

inductive Answer where
  | number (n : Number)
  /-- Anything that is not a number, known by its display. -/
  | object (display : Except Fault String)

structure Reply where
  entries : List (List Number) := []
  result : Except Fault Answer

end Host

/-- A host function answers its arguments and the log of calls alone: it keeps no state, and it never
raises an error of the language, only faults. -/
abbrev Host := List Number → Host.Reply

def Host.ofFunction (f : List Number → Except Fault Number) : Host := fun args =>
  { result := (f args).map .number }

end LambdaCalc
