import LambdaCalc.Expr
import LambdaCalc.Token.Scanner

namespace LambdaCalc

namespace Reader

/-- An expression under way that waits for an expression inside it. -/
inductive Context where
  | group
  | body (parameters : List String)
  /-- Among the operands of a call, after the operands `before`. -/
  | operand (operator : Expr) (before : List Expr)

/-- What may come next. Parameter lists keep the offset of their lambda. -/
inductive State where
  | expr
  | firstOperand (operator : Expr)
  | firstParameter (start : Nat)
  | parameter (start : Nat) (names : List String)
  | afterParameter (start : Nat) (names : List String)
  | complete (e : Expr)

end Reader

structure Reader where
  stack : List Reader.Context := []
  state : Reader.State := .expr

namespace Reader

def keyword : String := "lambda"

def Context.frames (room : Room) : Context → Nat
  | group => room.group
  | body _ => room.body
  | operand _ _ => room.operand

def held (room : Room) : List Context → Nat
  | [] => 0
  | context :: stack => context.frames room + held room stack

def firstRepeated : List String → Option String
  | [] => none
  | names@(_ :: _) => firstRepeatedFrom [] names
where
  firstRepeatedFrom (seen : List String) : List String → Option String
    | [] => none
    | name :: rest => if seen.contains name then some name else firstRepeatedFrom (name :: seen) rest

/-- The first token of an expression, which needs a frame of its own. -/
def start (room : Room) (stack : List Context) (t : Token) : Except ReadError Reader :=
  if room.frames ≤ held room stack then .error ⟨.tooDeep, some t.pos⟩
  else match t.lexeme with
    | .number text =>
      match Numeral.readAt (some t.pos) text with
      | .ok n => .ok ⟨stack, .complete (.literal n)⟩
      | .error e => .error e
    | .symbol name =>
      if name = keyword then .ok ⟨stack, .firstParameter t.pos⟩
      else .ok ⟨stack, .complete (.name name)⟩
    | .delimiter char =>
      if char = '(' then .ok ⟨.group :: stack, .expr⟩
      else .error ⟨.unexpectedToken t.lexeme.shown, some t.pos⟩

def parameter (stack : List Context) (start : Nat) (names : List String) (t : Token) :
    Except ReadError Reader :=
  match t.lexeme with
  | .symbol name =>
    if name = keyword then .error ⟨.notParameter t.lexeme.shown, some t.pos⟩
    else .ok ⟨stack, .afterParameter start (names ++ [name])⟩
  | _ => .error ⟨.notParameter t.lexeme.shown, some t.pos⟩

def distinct (start : Nat) (names : List String) : Except ReadError Unit :=
  match firstRepeated names with
  | some name => .error ⟨.duplicateParameter name, some start⟩
  | none => .ok ()

def delimiterText (char : Char) : String := (Lexeme.delimiter char).shown

def expected (char : Char) (t : Token) : ReadError :=
  ⟨.expected (delimiterText char) (some t.lexeme.shown), some t.pos⟩

/-- A token that does not call the complete expression `e`: it must suit what `e` stands in. -/
def close : List Context → Expr → Token → Except ReadError Reader
  | [], _, t => .error ⟨.trailing, some t.pos⟩
  | .body parameters :: stack, e, t => close stack (.lambda parameters e) t
  | .group :: stack, e, t =>
    if t.lexeme = .delimiter ')' then .ok ⟨stack, .complete e⟩ else .error (expected ')' t)
  | .operand operator before :: stack, e, t =>
    if t.lexeme = .delimiter ',' then .ok ⟨.operand operator (before ++ [e]) :: stack, .expr⟩
    else if t.lexeme = .delimiter ')' then
      .ok ⟨stack, .complete (.call operator (before ++ [e]))⟩
    else .error (expected ')' t)

def feed (room : Room) (r : Reader) (t : Token) : Except ReadError Reader :=
  match r.state with
  | .expr => start room r.stack t
  | .firstOperand operator =>
    if t.lexeme = .delimiter ')' then .ok ⟨r.stack, .complete (.call operator [])⟩
    else start room (.operand operator [] :: r.stack) t
  | .firstParameter pos =>
    if t.lexeme = .delimiter ':' then .ok ⟨.body [] :: r.stack, .expr⟩
    else parameter r.stack pos [] t
  | .parameter pos names => parameter r.stack pos names t
  | .afterParameter pos names =>
    if t.lexeme = .delimiter ',' then .ok ⟨r.stack, .parameter pos names⟩
    else (distinct pos names).bind fun _ =>
      if t.lexeme = .delimiter ':' then .ok ⟨.body names :: r.stack, .expr⟩
      else .error (expected ':' t)
  | .complete e =>
    if t.lexeme = .delimiter '(' then .ok ⟨r.stack, .firstOperand e⟩ else close r.stack e t

def closeEnd (stop : Nat) : List Context → Expr → Except ReadError Expr
  | [], e => .ok e
  | .body parameters :: stack, e => closeEnd stop stack (.lambda parameters e)
  | _ :: _, _ => .error ⟨.expected (delimiterText ')') none, some stop⟩

def starved (room : Room) (stack : List Context) : ReadError.Reason :=
  if room.frames ≤ held room stack then .tooDeep else .incomplete

def finish (room : Room) (r : Reader) (stop : Nat) : Except ReadError Expr :=
  match r.state with
  | .complete e => closeEnd stop r.stack e
  | .expr => .error ⟨starved room r.stack, some stop⟩
  | .firstOperand operator => .error ⟨starved room (.operand operator [] :: r.stack), some stop⟩
  | .firstParameter _ | .parameter _ _ => .error ⟨.incomplete, some stop⟩
  | .afterParameter pos names =>
    (distinct pos names).bind fun _ => .error ⟨.expected (delimiterText ':') none, some stop⟩

end Reader

def Expr.ofTokens (room : Room) (tokens : List Token) : Except ReadError Expr :=
  ((Cursor.ofList tokens).walk (Reader.feed room) {}).bind fun (r, c) =>
    r.finish room (c.endOffsetBy fun t => some t.stop)

/-- The expression in a text; none if the text is blank. Errors of scanning come first, wherever
they are. -/
def Expr.read (room : Room) (source : String) : Except ReadError (Option Expr) :=
  (Token.scan source).bind fun tokens =>
    if tokens.isEmpty then .ok none else (Expr.ofTokens room tokens).map some

end LambdaCalc
