import LambdaCalc.Text.Quoted
import LambdaCalc.Number

namespace LambdaCalc

namespace Fault

/-- The kinds of failure. The first four reject the arguments; the others are breakdowns. -/
inductive Kind where
  | type
  | value
  | zeroDivision
  | overflow
  | key
  | runtime
deriving DecidableEq

inductive ByZero where
  | quotient
  | floorQuotient
  | remainder
  | power
deriving DecidableEq

inductive TooLarge where
  | conversion
  | quotient
  | power
  | complexPower
deriving DecidableEq

end Fault

inductive Fault where
  | arity (name : String) (expected got : Nat)
  | noArgument (name : String)
  | byZero (operation : Fault.ByZero)
  | tooLarge (operation : Fault.TooLarge)
  | noRealPower (base exponent : Number)
  | notIntegral (x : Binary64)
  | tooManyDigits
  | raised (kind : Fault.Kind) (text : String)
  /-- The text is not there: writing it fails in its turn. -/
  | untold (kind : Fault.Kind) (failure : Fault)
deriving DecidableEq

namespace Fault

def kind : Fault → Kind
  | arity _ _ _ => .type
  | noArgument _ => .type
  | byZero _ => .zeroDivision
  | tooLarge _ => .overflow
  | noRealPower _ _ => .value
  | notIntegral _ => .value
  | tooManyDigits => .value
  | raised k _ => k
  | untold k _ => k

def Kind.name : Kind → String
  | type => "TypeError"
  | value => "ValueError"
  | zeroDivision => "ZeroDivisionError"
  | overflow => "OverflowError"
  | key => "KeyError"
  | runtime => "RuntimeError"

def isRejection (f : Fault) : Bool :=
  match f.kind with
  | .type | .value | .zeroDivision | .overflow => true
  | .key | .runtime => false

def ByZero.message : ByZero → String
  | quotient => "division by zero"
  | floorQuotient => "integer division or modulo by zero"
  | remainder => "modulo by zero"
  | power => "0.0 cannot be raised to a negative power"

def TooLarge.message : TooLarge → String
  | conversion => "int too large to convert to float"
  | quotient => "integer division result too large for a float"
  | power => "(34, 'Numerical result out of range')"
  | complexPower => "complex exponentiation"

def message? : Fault → Except Fault String
  | arity name expected got =>
    .ok (name ++ " requires exactly " ++ toString expected ++ " argument(s), got " ++ toString got)
  | noArgument name => .ok (name ++ " requires at least 1 argument")
  | byZero operation => .ok operation.message
  | tooLarge operation => .ok operation.message
  | noRealPower base exponent =>
    .ok ("pow(" ++ base.display ++ ", " ++ exponent.display ++ ") has no real result")
  | notIntegral x => .ok ("cannot convert " ++ x.display ++ " to int")
  | tooManyDigits =>
    .ok ("Exceeds the limit (" ++ toString Number.maxDigits ++ " digits) for integer string " ++
      "conversion; use sys.set_int_max_str_digits() to increase the limit")
  | raised .key text => .ok (Text.quoted text)
  | raised _ text => .ok text
  | untold _ failure => .error failure

end Fault

/-- Text that holds integers of any size: refused when one of them is too long. -/
def Number.text? (n : Number) : Except Fault String :=
  if n.isWritable then .ok n.text else .error .tooManyDigits

def Number.display? (n : Number) : Except Fault String :=
  if n.isWritable then .ok n.display else .error .tooManyDigits

end LambdaCalc
