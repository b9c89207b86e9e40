import LambdaCalc.Binary64.Arith
import LambdaCalc.Fault

namespace LambdaCalc.Number

attribute [local instance (high)] instPowNat

def toFloat : Number → Except Fault Binary64
  | float x => .ok x
  | n =>
    let x := Binary64.ofInt (n.toInt?.getD 0)
    if x.isFinite then .ok x else .error (.tooLarge .conversion)

/-- Integers by `onInt`, anything else by `onFloat` after conversion. -/
def combine (onInt : Int → Int → Except Fault Number)
    (onFloat : Binary64 → Binary64 → Except Fault Number) (a b : Number) : Except Fault Number :=
  match a.toInt?, b.toInt? with
  | some m, some n => onInt m n
  | _, _ => a.toFloat.bind fun x => b.toFloat.bind fun y => onFloat x y

def add : Number → Number → Except Fault Number :=
  combine (fun m n => .ok (int (m + n))) (fun x y => .ok (float (x.add y)))

def sub : Number → Number → Except Fault Number :=
  combine (fun m n => .ok (int (m - n))) (fun x y => .ok (float (x.sub y)))

def mul : Number → Number → Except Fault Number :=
  combine (fun m n => .ok (int (m * n))) (fun x y => .ok (float (x.mul y)))

def isZero (a : Number) : Bool := a.equals (int 0)

def intQuotient (m n : Int) : Except Fault Number :=
  let x := Binary64.ofUnits ((m < 0) != (n < 0)) (m.natAbs * Binary64.scale) n.natAbs
  if x.isFinite then .ok (float x) else .error (.tooLarge .quotient)

def trueDiv (a b : Number) : Except Fault Number :=
  if b.isZero then .error (.byZero .quotient)
  else combine intQuotient (fun x y => .ok (float (x.div y))) a b

def floorDiv (a b : Number) : Except Fault Number :=
  if b.isZero then .error (.byZero .floorQuotient)
  else combine (fun m n => .ok (int (m.fdiv n))) (fun x y => .ok (float (x.floorQuotient y))) a b

def mod (a b : Number) : Except Fault Number :=
  if b.isZero then .error (.byZero .remainder)
  else combine (fun m n => .ok (int (m.fmod n))) (fun x y => .ok (float (x.modulo y))) a b

def intPower (m : Int) (n : Nat) : Int :=
  let size := if m.natAbs ≤ 1 ∧ n ≠ 0 then m.natAbs else m.natAbs ^ n
  if m < 0 ∧ n % 2 = 1 then -(size : Int) else size

def infinitePower (negative : Bool) (y : Binary64) : Binary64 :=
  let sign := negative && y.isOddInteger
  if y.isNegative then .zero sign else .infinite sign

def powerInfinite (x : Binary64) (negative : Bool) : Binary64 :=
  match Binary64.compare? x.abs .one with
  | some .eq => .one
  | order => if (order == some .gt) != negative then .infinite false else .zero false

def finitePower (x y : Binary64) : Except Fault Binary64 :=
  let size := x.abs
  let sign := x.isNegative && y.isOddInteger
  let power := if size == .one then .one else size.machinePower y
  if x.isNegative && !y.isInteger then
    .error (if power.isFinite then .noRealPower (float x) (float y) else .tooLarge .complexPower)
  else if power.isFinite then .ok (power.withSign sign)
  else .error (.tooLarge .power)

def floatPower (x y : Binary64) : Except Fault Binary64 :=
  if y.isZero then .ok .one
  else if x.isNan then .ok x
  else if y.isNan then .ok (if x == .one then .one else y)
  else match x, y with
    | _, .infinite negative => .ok (powerInfinite x negative)
    | .infinite negative, _ => .ok (infinitePower negative y)
    | _, _ =>
      if x.isZero then
        if y.isNegative then .error (.byZero .power)
        else .ok (.zero (x.isNegative && y.isOddInteger))
      else finitePower x y

/-- The message of a power without a real value shows the operands as they were given. -/
def showOperands (a b : Number) : Except Fault Binary64 → Except Fault Number
  | .ok x => .ok (float x)
  | .error (.noRealPower _ _) => .error (.noRealPower a b)
  | .error f => .error f

def pow (a b : Number) : Except Fault Number :=
  let asFloats := a.toFloat.bind fun x => b.toFloat.bind fun y => showOperands a b (floatPower x y)
  match a.toInt?, b.toInt? with
  | some m, some n => if 0 ≤ n then .ok (int (intPower m n.toNat)) else asFloats
  | _, _ => asFloats

def abs : Number → Number
  | float x => float x.abs
  | n => int (n.toInt?.getD 0).natAbs

/-- The first of the smallest. -/
def least (first : Number) (rest : List Number) : Number :=
  rest.foldl (fun best n => if n.lt best then n else best) first

def greatest (first : Number) (rest : List Number) : Number :=
  rest.foldl (fun best n => if best.lt n then n else best) first

def truncate : Number → Except Fault Number
  | float x => if x.isFinite then .ok (int x.truncate) else .error (.notIntegral x)
  | n => .ok (int (n.toInt?.getD 0))

end LambdaCalc.Number
