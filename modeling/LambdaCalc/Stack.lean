namespace LambdaCalc

/-- The frames for going down a tree, and how many a step to each kind of part takes. -/
structure Descent where
  frames : Nat
  operator : Nat
  operand : Nat
  body : Nat

/-- The frames for reading, and how many each kind of expression under way holds. -/
structure Room where
  frames : Nat
  group : Nat
  operand : Nat
  body : Nat

structure Stack where
  reading : Room
  source : Descent
  construction : Descent
  tree : Descent
  comparison : Descent
  /-- The levels of evaluation, each taken alike. -/
  levels : Nat

/-- A host with a thousand frames, a few of which are taken before a tree is written. -/
def Stack.usual : Stack where
  reading := { frames := 1000, group := 1, operand := 3, body := 1 }
  source := { frames := 996, operator := 2, operand := 4, body := 3 }
  construction := { frames := 996, operator := 2, operand := 3, body := 2 }
  tree := { frames := 996, operator := 3, operand := 3, body := 1 }
  comparison := { frames := 996, operator := 3, operand := 4, body := 3 }
  levels := 1000

end LambdaCalc
