import LambdaCalc.Expr.Reader

namespace LambdaCalc.Grammar

inductive Nonterminal where
  | expr
  /-- An expression that operands may follow: it does not end with the body of a lambda. -/
  | primary

/-- One operand of a call: its lexemes, the expression that they derive, and its nesting. -/
structure Operand where
  nesting : Nat
  lexemes : List Lexeme
  expr : Expr

def comma : Lexeme := .delimiter ','

def operandLexemes (operands : List Operand) : List Lexeme :=
  [comma].intercalate (operands.map Operand.lexemes)

def operandNesting (room : Room) (operands : List Operand) : Nat :=
  (operands.map fun o => o.nesting + room.operand).foldr max 0

def parameterLexemes (names : List String) : List Lexeme :=
  (names.map Lexeme.symbol).intersperse comma

def lambdaLexemes (names : List String) : List Lexeme :=
  .symbol Reader.keyword :: parameterLexemes names ++ [.delimiter ':']

/-- `Derives room nonterminal nesting lexemes e`: the lexemes derive the expression. The nesting is the
number of frames that the innermost expression needs: parentheses, operands and bodies of lambdas count, the
calls that follow one another do not. -/
inductive Derives (room : Room) : Nonterminal → Nat → List Lexeme → Expr → Prop where
  | literal {text : String} {value : Number} (numeral : Numeral.read text = .ok value) :
      Derives room .primary 1 [.number text] (.literal value)
  | name {identifier : String} (free : identifier ≠ Reader.keyword) :
      Derives room .primary 1 [.symbol identifier] (.name identifier)
  | group {n : Nat} {inner : List Lexeme} {e : Expr} (inside : Derives room .expr n inner e) :
      Derives room .primary (n + room.group) (.delimiter '(' :: inner ++ [.delimiter ')']) e
  | call {n : Nat} {front : List Lexeme} {operator : Expr} (operands : List Operand)
      (before : Derives room .primary n front operator)
      (inside : ∀ o ∈ operands, Derives room .expr o.nesting o.lexemes o.expr) :
      Derives room .primary (max n (operandNesting room operands))
        (front ++ .delimiter '(' :: operandLexemes operands ++ [.delimiter ')'])
        (.call operator (operands.map Operand.expr))
  | primary {n : Nat} {lexemes : List Lexeme} {e : Expr} (whole : Derives room .primary n lexemes e) :
      Derives room .expr n lexemes e
  | lambda {n : Nat} {names : List String} {inner : List Lexeme} {body : Expr}
      (free : ∀ name ∈ names, name ≠ Reader.keyword) (distinct : names.Nodup)
      (inside : Derives room .expr n inner body) :
      Derives room .expr (n + room.body) (lambdaLexemes names ++ inner) (.lambda names body)

variable {room : Room}

theorem derives_nesting_pos {nonterminal : Nonterminal} {n : Nat} {lexemes : List Lexeme} {e : Expr}
    (derivation : Derives room nonterminal n lexemes e) : 0 < n := by
  induction derivation with
  | literal | name | group | lambda => omega
  | call operands before inside first rest => omega
  | primary whole ih => exact ih

theorem derives_head {nonterminal : Nonterminal} {n : Nat} {lexemes : List Lexeme} {e : Expr}
    (derivation : Derives room nonterminal n lexemes e) :
    ∃ first rest, lexemes = first :: rest ∧ first ≠ .delimiter ')' := by
  induction derivation with
  | literal numeral => exact ⟨_, _, rfl, by simp⟩
  | name free => exact ⟨_, _, rfl, by simp⟩
  | group inside ih => exact ⟨_, _, rfl, by decide⟩
  | call operands before inside first rest =>
    obtain ⟨head, tail, rfl, opening⟩ := first
    exact ⟨head, _, rfl, opening⟩
  | primary whole ih => exact ih
  | lambda free distinct inside ih => exact ⟨_, _, rfl, by decide⟩

theorem operandLexemes_cons (o p : Operand) (rest : List Operand) :
    operandLexemes (o :: p :: rest) = o.lexemes ++ comma :: operandLexemes (p :: rest) := by
  simp [operandLexemes, List.intercalate]

theorem operandLexemes_singleton (o : Operand) : operandLexemes [o] = o.lexemes := by
  simp [operandLexemes, List.intercalate]

theorem operandLexemes_concat (operands : List Operand) (last : Operand) :
    operandLexemes (operands ++ [last]) =
      operands.flatMap (fun o => o.lexemes ++ [comma]) ++ last.lexemes := by
  induction operands with
  | nil => simp [operandLexemes_singleton]
  | cons o rest ih =>
    cases rest with
    | nil => simp [operandLexemes_cons, operandLexemes_singleton]
    | cons p rest =>
      rw [List.cons_append, List.cons_append, operandLexemes_cons, ← List.cons_append, ih]
      simp

theorem operandNesting_cons (o : Operand) (rest : List Operand) :
    operandNesting room (o :: rest) = max (o.nesting + room.operand) (operandNesting room rest) := rfl

theorem operandNesting_le {operands : List Operand} {bound : Nat}
    (each : ∀ o ∈ operands, o.nesting + room.operand ≤ bound) : operandNesting room operands ≤ bound := by
  induction operands with
  | nil => exact Nat.zero_le bound
  | cons o rest ih =>
    rw [operandNesting_cons]
    exact Nat.max_le.mpr ⟨each o (by simp), ih fun p member => each p (by simp [member])⟩

theorem parameterLexemes_cons (name other : String) (rest : List String) :
    parameterLexemes (name :: other :: rest) =
      .symbol name :: comma :: parameterLexemes (other :: rest) := rfl

theorem parameterLexemes_concat (names : List String) (last : String) (nonempty : names ≠ []) :
    parameterLexemes (names ++ [last]) = parameterLexemes names ++ [comma, .symbol last] := by
  induction names with
  | nil => exact absurd rfl nonempty
  | cons name rest ih =>
    cases rest with
    | nil => rfl
    | cons other rest =>
      have tail := ih (by simp)
      simp only [List.cons_append] at tail ⊢
      rw [parameterLexemes_cons, tail, parameterLexemes_cons, List.cons_append, List.cons_append]

end LambdaCalc.Grammar
