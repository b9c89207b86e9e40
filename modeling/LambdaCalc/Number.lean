import LambdaCalc.Decimal

namespace LambdaCalc

inductive Number where
  | int (n : Int)
  | float (x : Binary64)
  | bool (b : Bool)
deriving DecidableEq

namespace Number

def maxDigits : Nat := 4300

/-- The bits that always fit: `maxDigits · log₂ 10`, rounded down. -/
def maxBits : Nat := 14284

def bitLength (n : Nat) : Nat := if n = 0 then 0 else n.log2 + 1

def inRange : Number → Bool
  | int n => bitLength n.natAbs ≤ maxBits
  | float x => x.isFinite
  | bool _ => true

def toInt? : Number → Option Int
  | int n => some n
  | bool b => some (if b then 1 else 0)
  | float _ => none

def compare? : Number → Number → Option Ordering
  | float x, float y => Binary64.compare? x y
  | float x, b => (b.toInt?.bind fun n => Binary64.compareInt? n x).map Ordering.swap
  | a, float y => a.toInt?.bind fun n => Binary64.compareInt? n y
  | a, b => a.toInt?.bind fun m => b.toInt?.map fun n => compare m n

/-- Equality by exact value; a NaN is equal to itself and to nothing else. -/
def equals (a b : Number) : Bool :=
  compare? a b == some .eq ||
    match a, b with
    | float (.nan s), float (.nan t) => s == t
    | _, _ => false

def lt (a b : Number) : Bool := compare? a b == some .lt

def intText (n : Int) : String :=
  String.ofList (Binary64.signText (n < 0) ++ Nat.toDigits 10 n.natAbs)

def isWritable : Number → Bool
  | int n => Decimal.width n.natAbs ≤ maxDigits
  | _ => true

/-- The numeral text, floating point numbers without an exponent. -/
def text : Number → String
  | int n => intText n
  | float x => x.text
  | bool b => if b then "True" else "False"

def display : Number → String
  | int n => intText n
  | float x => x.display
  | bool b => if b then "True" else "False"

end Number

end LambdaCalc
