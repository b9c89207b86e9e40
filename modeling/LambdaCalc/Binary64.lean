namespace LambdaCalc

-- The powers of core, also beside a library that has powers of its own.
attribute [local instance (high)] instPowNat

/-- How many finite magnitudes there are: 2047 exponents of 2⁵² fractions each. -/
abbrev Binary64.ranks : Nat := 2047 * 2 ^ (52 : Nat)

inductive Binary64 where
  | finite (negative : Bool) (rank : Fin Binary64.ranks)
  | infinite (negative : Bool)
  /-- Not a number. The tag tells values of different origin apart and takes no part in arithmetic. -/
  | nan (tag : Nat)
deriving DecidableEq

namespace Binary64

def scale : Nat := 2 ^ (1074 : Nat)

/-- The units of a magnitude: the gap between neighbours doubles with every 2⁵² ranks. -/
def units (rank : Nat) : Nat :=
  let doublings := rank / 2 ^ (52 : Nat) - 1
  (rank - doublings * 2 ^ (52 : Nat)) * 2 ^ doublings

def roundQuotient (num den : Nat) : Nat :=
  let q := num / den
  let r := num % den
  if 2 * r < den then q else if den < 2 * r then q + 1 else q + q % 2

/-- The rank nearest to `num / den` units; from `ranks` on it is too large to be finite. -/
def nearestRank (num den : Nat) : Nat :=
  let doublings := (num / den).log2 - 52
  doublings * 2 ^ (52 : Nat) + roundQuotient num (den * 2 ^ doublings)

def ofRank (negative : Bool) (rank : Nat) : Binary64 :=
  if h : rank < ranks then finite negative ⟨rank, h⟩ else infinite negative

def ofUnits (negative : Bool) (num den : Nat) : Binary64 :=
  ofRank negative (nearestRank num den)

def zero (negative : Bool) : Binary64 := ofRank negative 0

def isFinite : Binary64 → Bool
  | finite _ _ => true
  | _ => false

def isNan : Binary64 → Bool
  | nan _ => true
  | _ => false

def isNegative : Binary64 → Bool
  | finite s _ => s
  | infinite s => s
  | nan _ => false

def toUnits : Binary64 → Int
  | finite true r => -(units r : Int)
  | finite false r => units r
  | _ => 0

def magnitude (x : Binary64) : Nat := x.toUnits.natAbs

def isZero : Binary64 → Bool
  | finite _ r => r.val == 0
  | _ => false

def ofInt (n : Int) : Binary64 := ofUnits (n < 0) (n.natAbs * scale) 1

def one : Binary64 := ofInt 1

def truncate (x : Binary64) : Int := x.toUnits.tdiv scale

def isInteger (x : Binary64) : Bool := x.isFinite && x.magnitude % scale == 0

def isOddInteger (x : Binary64) : Bool := x.isInteger && x.magnitude / scale % 2 == 1

def compare? : Binary64 → Binary64 → Option Ordering
  | nan _, _ => none
  | _, nan _ => none
  | infinite s, infinite t => some (if s == t then .eq else if s then .lt else .gt)
  | infinite s, finite _ _ => some (if s then .lt else .gt)
  | finite _ _, infinite t => some (if t then .gt else .lt)
  | x@(finite _ _), y@(finite _ _) => some (compare x.toUnits y.toUnits)

def compareInt? (n : Int) : Binary64 → Option Ordering
  | nan _ => none
  | infinite s => some (if s then .gt else .lt)
  | x@(finite _ _) => some (compare (n * scale) x.toUnits)

end Binary64

end LambdaCalc
