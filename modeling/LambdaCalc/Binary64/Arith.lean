import LambdaCalc.Binary64

namespace LambdaCalc.Binary64

attribute [local instance (high)] instPowNat

def withSign (negative : Bool) : Binary64 → Binary64
  | finite _ r => finite negative r
  | infinite _ => infinite negative
  | nan t => nan t

def neg (x : Binary64) : Binary64 := x.withSign !x.isNegative

def abs (x : Binary64) : Binary64 := x.withSign false

/-- A sum is negative zero only when both terms are negative. -/
def add : Binary64 → Binary64 → Binary64
  | nan t, _ => nan t
  | _, nan t => nan t
  | infinite s, infinite t => if s == t then infinite s else nan 0
  | infinite s, finite _ _ => infinite s
  | finite _ _, infinite t => infinite t
  | x@(finite s _), y@(finite t _) =>
    let total := x.toUnits + y.toUnits
    if total = 0 then zero (s && t) else ofUnits (total < 0) total.natAbs 1

def sub (x y : Binary64) : Binary64 := x.add y.neg

def mul : Binary64 → Binary64 → Binary64
  | nan t, _ => nan t
  | _, nan t => nan t
  | x@(finite s _), y@(finite t _) => ofUnits (s != t) (x.magnitude * y.magnitude) scale
  | x, y => if x.isZero || y.isZero then nan 0 else infinite (x.isNegative != y.isNegative)

def div : Binary64 → Binary64 → Binary64
  | nan t, _ => nan t
  | _, nan t => nan t
  | infinite _, infinite _ => nan 0
  | infinite s, finite t _ => infinite (s != t)
  | finite s _, infinite t => zero (s != t)
  | x@(finite s _), y@(finite t _) =>
    if y.isZero then (if x.isZero then nan 0 else infinite (s != t))
    else ofUnits (s != t) (x.magnitude * scale) y.magnitude

def remainder : Binary64 → Binary64 → Binary64
  | nan t, _ => nan t
  | _, nan t => nan t
  | infinite _, _ => nan 0
  | x@(finite _ _), infinite _ => x
  | x@(finite s _), y@(finite _ _) =>
    if y.isZero then nan 0 else ofUnits s (x.magnitude % y.magnitude) 1

def floor : Binary64 → Binary64
  | x@(finite s _) => ofUnits s ((x.toUnits / scale).natAbs * scale) 1
  | x => x

def lt (x y : Binary64) : Bool := compare? x y == some .lt

def modulo (x y : Binary64) : Binary64 :=
  let r := remainder x y
  if r.isZero then zero y.isNegative
  else if y.lt (zero false) != r.lt (zero false) then r.add y else r

/-- The quotient without its fraction, found from the remainder and then set to the nearest
integer, since the subtraction and the division round. -/
def floorQuotient (x y : Binary64) : Binary64 :=
  let r := remainder x y
  let q := (x.sub r).div y
  let q := if !r.isZero && y.lt (zero false) != r.lt (zero false) then q.sub one else q
  if q.isZero then zero (x.div y).isNegative
  else
    let below := q.floor
    if (ofUnits false scale 2).lt (q.sub below) then below.add one else below

def toBits : Binary64 → UInt64
  | finite s r => UInt64.ofNat ((if s then 2 ^ (63 : Nat) else 0) + r.val)
  | infinite s => UInt64.ofNat ((if s then 2 ^ (63 : Nat) else 0) + ranks)
  | nan _ => UInt64.ofNat (ranks + 2 ^ (51 : Nat))

def ofBits (bits : UInt64) : Binary64 :=
  let negative := 2 ^ (63 : Nat) ≤ bits.toNat
  let rank := bits.toNat % 2 ^ (63 : Nat)
  if ranks < rank then nan 0 else ofRank negative rank

/-- The power of a positive finite base, as the machine rounds it. -/
def machinePower (x y : Binary64) : Binary64 :=
  ofBits (Float.pow (Float.ofBits x.toBits) (Float.ofBits y.toBits)).toBits

end LambdaCalc.Binary64
