import LambdaCalc.Cursor

namespace LambdaCalc

namespace Token

def isNumeralChar (c : Char) : Bool := c.isDigit || c == '.' || c == '-'

def isSymbolStart (c : Char) : Bool := c.isAlpha || c == '_'

def isSymbolInner (c : Char) : Bool := isSymbolStart c || c.isDigit

def isDelimiter (c : Char) : Bool := c == '(' || c == ')' || c == ',' || c == ':'

end Token

namespace Scanner

/-- The token under way: where it started and its characters, the last one first. -/
inductive Pending where
  | none
  | number (start : Nat) (run : List Char)
  | symbol (start : Nat) (run : List Char)
deriving DecidableEq

end Scanner

/-- The state between two characters: the offset, the complete tokens, the last one first, and the
token under way. -/
structure Scanner where
  pos : Nat := 0
  done : List Token := []
  pending : Scanner.Pending := .none
deriving DecidableEq

namespace Scanner

/-- Completes the token under way; a malformed numeral is refused at its start. -/
def flush (s : Scanner) : Except ReadError Scanner :=
  match s.pending with
  | .none => .ok s
  | .number start run =>
    let text := String.ofList run.reverse
    match Numeral.readAt (some start) text with
    | .ok _ => .ok { s with done := ⟨.number text, start⟩ :: s.done, pending := .none }
    | .error e => .error e
  | .symbol start run =>
    .ok { s with done := ⟨.symbol (String.ofList run.reverse), start⟩ :: s.done, pending := .none }

def begin (s : Scanner) (c : Char) : Except ReadError Scanner :=
  if Text.isBlank c then .ok { s with pos := s.pos + 1 }
  else if Token.isNumeralChar c then
    .ok { s with pos := s.pos + 1, pending := .number s.pos [c] }
  else if Token.isSymbolStart c then
    .ok { s with pos := s.pos + 1, pending := .symbol s.pos [c] }
  else if Token.isDelimiter c then
    .ok { s with pos := s.pos + 1, done := ⟨.delimiter c, s.pos⟩ :: s.done }
  else .error ⟨.unexpectedChar c, some s.pos⟩

def feed (s : Scanner) (c : Char) : Except ReadError Scanner :=
  match s.pending with
  | .none => s.begin c
  | .number start run =>
    if Token.isNumeralChar c then .ok { s with pos := s.pos + 1, pending := .number start (c :: run) }
    else s.flush.bind (·.begin c)
  | .symbol start run =>
    if Token.isSymbolInner c then .ok { s with pos := s.pos + 1, pending := .symbol start (c :: run) }
    else s.flush.bind (·.begin c)

def finish (s : Scanner) : Except ReadError (List Token) :=
  s.flush.map fun t => t.done.reverse

end Scanner

def Token.scan (source : String) : Except ReadError (List Token) :=
  ((Cursor.ofList source.toList).walk Scanner.feed {}).bind fun (s, _) => s.finish

end LambdaCalc
