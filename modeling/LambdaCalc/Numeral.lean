import LambdaCalc.Number
import LambdaCalc.Text.Blank
import LambdaCalc.Text.Digit

namespace LambdaCalc.Numeral

inductive Error where
  | malformed (text : String)
  | outOfRange (text : String)
  | tooManyDigits
deriving DecidableEq

def Error.message : Error → String
  | malformed text => "'" ++ text ++ "' is not a numeral"
  | outOfRange text => "numeral '" ++ String.ofList (text.toList.take 20) ++ "...' is out of range"
  | tooManyDigits => "numeral has more than " ++ Number.intText Number.maxDigits ++ " digits"

def splitSign : List Char → Bool × List Char
  | '-' :: cs => (true, cs)
  | '+' :: cs => (false, cs)
  | cs => (false, cs)

/-- One digit or more, with single underscores between digits only. -/
def digits? : List Char → Option (List Nat)
  | [] => none
  | [c] => (Text.digitValue? c).map fun d => [d]
  | c :: '_' :: rest => (Text.digitValue? c).bind fun d => (digits? rest).map (d :: ·)
  | c :: rest => (Text.digitValue? c).bind fun d => (digits? rest).map (d :: ·)

def ofDigits (ds : List Nat) : Nat := ds.foldl (fun n d => 10 * n + d) 0

def signed (negative : Bool) (n : Nat) : Int := if negative then -(n : Int) else n

/-- An integer of at most `maxDigits` digits, leading zeros included. -/
def int? (cs : List Char) : Option Int :=
  let (negative, body) := splitSign (Text.trim Text.isMargin cs)
  (digits? body).bind fun ds =>
    if Number.maxDigits < ds.length then none else some (signed negative (ofDigits ds))

def optionalDigits? : List Char → Option (List Nat)
  | [] => some []
  | cs => digits? cs

def mantissa? (cs : List Char) : Option (List Nat × List Nat) :=
  let whole := cs.takeWhile (· != '.')
  match cs.dropWhile (· != '.') with
  | [] => (digits? whole).map fun w => (w, [])
  | _ :: fraction =>
    (optionalDigits? whole).bind fun w => (optionalDigits? fraction).bind fun f =>
      if w.isEmpty && f.isEmpty then none else some (w, f)

def isExponentMark (c : Char) : Bool := c == 'e' || c == 'E'

def exponent? (cs : List Char) : Option Int :=
  let (negative, body) := splitSign cs
  (digits? body).map fun ds => signed negative (ofDigits ds)

def decimal? (cs : List Char) : Option Decimal :=
  let front := cs.takeWhile (!isExponentMark ·)
  (mantissa? front).bind fun (whole, fraction) =>
    let scaled (e : Int) : Decimal := ⟨ofDigits (whole ++ fraction), e - fraction.length⟩
    match cs.dropWhile (!isExponentMark ·) with
    | [] => some (scaled 0)
    | _ :: back => (exponent? back).map scaled

def unsigned? (negative : Bool) (cs : List Char) : Option Binary64 :=
  let lower := String.ofList (cs.map Char.toLower)
  if lower = "inf" ∨ lower = "infinity" then some (.infinite negative)
  else if lower = "nan" then some (.nan 0)
  else (decimal? cs).map (Decimal.toBinary64 negative)

def float? (cs : List Char) : Option Binary64 :=
  let (negative, body) := splitSign (Text.trim Text.isMargin cs)
  unsigned? negative body

/-- Digit characters only, after one minus sign at most: such a text fails for its length. -/
def looksDigital (cs : List Char) : Bool :=
  let body := match cs with
    | '-' :: rest => rest
    | _ => cs
  !body.isEmpty && body.all Text.isDigit

def read (text : String) : Except Error Number :=
  let cs := text.toList
  if cs.contains '.' then
    match float? cs with
    | none => .error (.malformed text)
    | some x => if x.isFinite then .ok (.float x) else .error (.outOfRange text)
  else
    match int? cs with
    | some n => .ok (.int n)
    | none => .error (if looksDigital cs then .tooManyDigits else .malformed text)

end LambdaCalc.Numeral
