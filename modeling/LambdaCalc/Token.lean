import LambdaCalc.Text.Quoted

namespace LambdaCalc

inductive Lexeme where
  | number (text : String)
  | symbol (name : String)
  | delimiter (char : Char)
deriving DecidableEq

structure Token where
  lexeme : Lexeme
  pos : Nat := 0
deriving DecidableEq

namespace Lexeme

def text : Lexeme → String
  | number text => text
  | symbol name => name
  | delimiter char => String.singleton char

def width : Lexeme → Nat
  | number text => text.length
  | symbol name => name.length
  | delimiter _ => 1

def shown : Lexeme → String
  | number text => text
  | symbol name => name
  | delimiter char => Text.quotedChar char

end Lexeme

namespace Token

def stop (t : Token) : Nat := t.pos + t.lexeme.width

/-- Tokens are the same when they say the same, wherever they stand. -/
def same (s t : Token) : Bool := s.lexeme == t.lexeme

def display (t : Token) : String :=
  let parts := match t.lexeme with
    | .number text => "NumberLiteral(text=" ++ Text.quoted text
    | .symbol name => "Symbol(name=" ++ Text.quoted name
    | .delimiter char => "Delimiter(char=" ++ Text.quotedChar char
  parts ++ ", pos=" ++ toString t.pos ++ ")"

end Token

end LambdaCalc
