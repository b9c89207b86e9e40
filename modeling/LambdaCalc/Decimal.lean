import LambdaCalc.Binary64

namespace LambdaCalc

attribute [local instance (high)] instPowNat

/-- The value `digits · 10 ^ exponent`. -/
structure Decimal where
  digits : Nat
  exponent : Int
deriving DecidableEq, Repr

namespace Decimal

def width (n : Nat) : Nat := if n = 0 then 0 else (Nat.toDigits 10 n).length

def rank (d : Decimal) : Nat :=
  Binary64.nearestRank (d.digits * Binary64.scale * 10 ^ d.exponent.toNat)
    (10 ^ (-d.exponent).toNat)

/-- The nearest binary64 number. A decimal of 310 places or more before the point is infinite and
one that starts 400 places behind it is zero, whatever its digits. -/
def toBinary64 (negative : Bool) (d : Decimal) : Binary64 :=
  let top := width d.digits + d.exponent
  if d.digits = 0 ∨ top < -400 then .zero negative
  else if 310 < top then .infinite negative
  else .ofRank negative d.rank

def exact (rank : Nat) : Decimal := ⟨Binary64.units rank * 5 ^ (1074 : Nat), -1074⟩

def cut (d : Decimal) (count : Nat) : Decimal := ⟨d.digits / 10 ^ count, d.exponent + count⟩

def next (d : Decimal) : Decimal := ⟨d.digits + 1, d.exponent⟩

def nearer (whole below above : Decimal) (count : Nat) : Decimal :=
  match compare (2 * whole.digits) ((2 * below.digits + 1) * 10 ^ count) with
  | .lt => below
  | .gt => above
  | .eq => if below.digits % 2 = 0 then below else above

/-- Of the two neighbours of `whole` on the grid that drops `count` digits, the one that is read back
as the rank; of two the nearer. -/
def neighbour? (whole : Decimal) (rank count : Nat) : Option Decimal :=
  let below := whole.cut count
  let above := below.next
  if below.rank = rank then
    some (if above.rank = rank then nearer whole below above count else below)
  else if above.rank = rank then some above
  else none

/-- The fewest digits that are read back as the magnitude: seventeen are enough. -/
def shortest (rank : Nat) : Decimal :=
  let whole := exact rank
  let places := width whole.digits
  ((List.range 17).findSome? fun n => whole.neighbour? rank (places - (n + 1))).getD whole

def dropZeros : Nat → Decimal → Decimal
  | 0, d => d
  | fuel + 1, d =>
    if d.digits % 10 = 0 ∧ d.digits ≠ 0 then dropZeros fuel ⟨d.digits / 10, d.exponent + 1⟩ else d

def normal (d : Decimal) : Decimal := dropZeros (width d.digits) d

/-- The digits and the place of the point: the value is `0.DIGITS · 10 ^ point`. -/
def spread (d : Decimal) : List Char × Int :=
  let n := d.normal
  (Nat.toDigits 10 n.digits, width n.digits + n.exponent)

def positional (digits : List Char) (point : Int) : List Char :=
  if point ≤ 0 then
    '0' :: '.' :: List.replicate (-point).toNat '0' ++ digits
  else if digits.length ≤ point.toNat then
    digits ++ List.replicate (point.toNat - digits.length) '0' ++ ['.', '0']
  else
    digits.take point.toNat ++ '.' :: digits.drop point.toNat

def positionalChars (d : Decimal) : List Char := positional d.spread.1 d.spread.2

def exponentText (e : Int) : List Char :=
  let digits := Nat.toDigits 10 e.natAbs
  (if e < 0 then '-' else '+') :: (if digits.length < 2 then '0' :: digits else digits)

def scientific (digits : List Char) (point : Int) : List Char :=
  digits.take 1 ++ (if digits.length ≤ 1 then [] else '.' :: digits.drop 1) ++
    'e' :: exponentText (point - 1)

end Decimal

namespace Binary64

def signText (negative : Bool) : List Char := if negative then ['-'] else []

def textChars : Binary64 → List Char
  | nan _ => "nan".toList
  | infinite s => signText s ++ "inf".toList
  | finite s r =>
    signText s ++ if r.val = 0 then "0.0".toList else (Decimal.shortest r).positionalChars

/-- The text for display: positional when the leading digit stands between the fourth place behind
the point and the sixteenth before it, else with an exponent. -/
def displayChars : Binary64 → List Char
  | nan t => textChars (nan t)
  | infinite s => textChars (infinite s)
  | finite s r =>
    let (digits, point) := (Decimal.shortest r).spread
    if r.val = 0 ∨ (-4 < point ∧ point ≤ 16) then textChars (finite s r)
    else signText s ++ Decimal.scientific digits point

def text (x : Binary64) : String := String.ofList x.textChars

def display (x : Binary64) : String := String.ofList x.displayChars

end Binary64

end LambdaCalc
