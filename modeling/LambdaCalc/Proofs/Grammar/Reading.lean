import LambdaCalc.Proofs.Grammar.Soundness

namespace LambdaCalc.Grammar

open Reader

variable {room : Room} {n : Nat} {tokens : List Token} {e : Expr}

theorem ofTokens_of_derives (derivation : Derives room .expr n (tokens.map Token.lexeme) e)
    (fits : n ≤ room.frames) : Expr.ofTokens room tokens = .ok e := by
  have within : held room [] + n ≤ room.frames := by rwa [held, Nat.zero_add]
  obtain ⟨r, ran, complete⟩ := (reads_within within).mp (derives_run derivation [] tokens rfl)
  have started : run room {} tokens = .ok r := ran
  rw [ofTokens_eq_run, started, Except.bind, Completes.finish_eq_closeEnd complete]
  rfl

theorem ofTokens_tooDeep (derivation : Derives room .expr n (tokens.map Token.lexeme) e)
    (exceeds : room.frames < n) :
    ∃ t ∈ tokens, Expr.ofTokens room tokens = .error ⟨.tooDeep, some t.pos⟩ := by
  have beyond : room.frames < held room [] + n := by rwa [held, Nat.zero_add]
  obtain ⟨t, member, ran⟩ := (reads_beyond beyond).mp (derives_run derivation [] tokens rfl)
  have started : run room {} tokens = .error ⟨.tooDeep, some t.pos⟩ := ran
  refine ⟨t, member, ?_⟩
  rw [ofTokens_eq_run, started, Except.bind]

theorem derives_of_ofTokens (read : Expr.ofTokens room tokens = .ok e) :
    ∃ n, Derives room .expr n (tokens.map Token.lexeme) e ∧ n ≤ room.frames := by
  rw [ofTokens_eq_run] at read
  cases ran : run room {} tokens with
  | error err =>
    rw [ran] at read
    cases read
  | ok r =>
    rw [ran] at read
    have initial : Reached room {} [] := ⟨[], [], .nil, rfl, rfl⟩
    have reached := run_reached initial tokens ran
    rw [List.nil_append] at reached
    exact finish_derives reached read

theorem Derives.withFrames {nonterminal : Nonterminal} {lexemes : List Lexeme}
    (derivation : Derives room nonterminal n lexemes e) (frames : Nat) :
    Derives { room with frames := frames } nonterminal n lexemes e := by
  induction derivation with
  | literal numeral => exact .literal numeral
  | name free => exact .name free
  | group inside ih => exact .group ih
  | call operands before inside first rest => exact .call operands first rest
  | primary whole ih => exact .primary ih
  | lambda free nodup inside ih => exact .lambda free nodup ih

theorem derives_unique {m : Nat} {lexemes : List Lexeme} {d : Expr}
    (first : Derives room .expr m lexemes d) (second : Derives room .expr n lexemes e) : d = e ∧ m = n := by
  let spelling : List Token := lexemes.map fun lexeme => ⟨lexeme, 0⟩
  have spelled : spelling.map Token.lexeme = lexemes := by
    simp [spelling, Function.comp_def]
  rw [← spelled] at first second
  -- As many frames as the one nesting takes must do for the other one too.
  have small : ∀ {a b : Nat} {x y : Expr}, Derives room .expr a (spelling.map Token.lexeme) x →
      Derives room .expr b (spelling.map Token.lexeme) y → b ≤ a := by
    intro a b x y one other
    have accepted := ofTokens_of_derives (one.withFrames a) (Nat.le_refl a)
    refine Nat.le_of_not_lt fun exceeds => ?_
    obtain ⟨t, -, refused⟩ := ofTokens_tooDeep (other.withFrames a) exceeds
    rw [accepted] at refused
    cases refused
  have same : m = n := Nat.le_antisymm (small second first) (small first second)
  have left := ofTokens_of_derives (first.withFrames m) (Nat.le_refl m)
  have right := ofTokens_of_derives (second.withFrames m) (Nat.le_of_eq same.symm)
  rw [left] at right
  cases right
  exact ⟨rfl, same⟩

theorem read_eq_some_iff {source : String} (scanned : Token.scan source = .ok tokens) :
    Expr.read room source = .ok (some e) ↔ Expr.ofTokens room tokens = .ok e := by
  simp only [Expr.read, scanned, Except.bind]
  cases tokens with
  | nil =>
    constructor
    · intro blank
      cases blank
    · intro empty
      obtain ⟨n, derivation, -⟩ := derives_of_ofTokens empty
      obtain ⟨head, tail, shape, -⟩ := derives_head derivation
      cases shape
  | cons t rest =>
    simp only [List.isEmpty_cons, Bool.false_eq_true, ↓reduceIte]
    cases Expr.ofTokens room (t :: rest) <;> simp [Except.map]

theorem read_eq_error_of_ofTokens {source : String} {err : ReadError}
    (scanned : Token.scan source = .ok tokens) (nonempty : tokens ≠ [])
    (failed : Expr.ofTokens room tokens = .error err) : Expr.read room source = .error err := by
  cases tokens with
  | nil => exact absurd rfl nonempty
  | cons t rest =>
    simp only [Expr.read, scanned, Except.bind, List.isEmpty_cons, Bool.false_eq_true, ↓reduceIte,
      failed, Except.map]

theorem derives_of_read {source : String} {e : Expr} (read : Expr.read room source = .ok (some e)) :
    ∃ tokens n, Token.scan source = .ok tokens ∧ Derives room .expr n (tokens.map Token.lexeme) e ∧
      n ≤ room.frames := by
  cases scanned : Token.scan source with
  | error err =>
    rw [Expr.read, scanned] at read
    cases read
  | ok tokens =>
    obtain ⟨n, derivation, fits⟩ := derives_of_ofTokens ((read_eq_some_iff scanned).mp read)
    exact ⟨tokens, n, rfl, derivation, fits⟩

/-- The reader accepts exactly the grammar within its room, the grammar is unambiguous, and lexemes that derive
an expression beyond the room are refused for their nesting, at one of their tokens. -/
theorem read_accepts_grammar (room : Room) (source : String) (tokens : List Token)
    (scanned : Token.scan source = .ok tokens) :
    (∀ e, Expr.read room source = .ok (some e) ↔
      ∃ n, Derives room .expr n (tokens.map Token.lexeme) e ∧ n ≤ room.frames) ∧
    (∀ m n d e, Derives room .expr m (tokens.map Token.lexeme) d →
      Derives room .expr n (tokens.map Token.lexeme) e → d = e ∧ m = n) ∧
    (∀ n e, Derives room .expr n (tokens.map Token.lexeme) e → room.frames < n →
      ∃ t ∈ tokens, ∃ err, Expr.read room source = .error err ∧
        err.reason.message = "expression nested too deeply" ∧ err.position = some t.pos) := by
  refine ⟨?_, ?_, ?_⟩
  · intro e
    rw [read_eq_some_iff scanned]
    constructor
    · exact derives_of_ofTokens
    · rintro ⟨n, derivation, fits⟩
      exact ofTokens_of_derives derivation fits
  · intro m n d e first second
    exact derives_unique first second
  · intro n e derivation exceeds
    obtain ⟨t, member, failed⟩ := ofTokens_tooDeep derivation exceeds
    exact ⟨t, member, _, read_eq_error_of_ofTokens scanned (List.ne_nil_of_mem member) failed, rfl, rfl⟩

/-- A lambda among the operands ends where the operand does, and a second call follows the first: the operand
takes three frames and the body of the lambda one, beside one for its literal. -/
theorem read_accepts_grammar_calls :
    Expr.read { frames := 5, group := 1, operand := 3, body := 1 } "f(lambda x, y: 7, x)()" =
      .ok (some (.call (.call (.name "f") [.lambda ["x", "y"] (.literal (.int 7)), .name "x"]) [])) := by
  let room : Room := { frames := 5, group := 1, operand := 3, body := 1 }
  have scanned : Token.scan "f(lambda x, y: 7, x)()" = .ok
      [⟨.symbol "f", 0⟩, ⟨.delimiter '(', 1⟩, ⟨.symbol "lambda", 2⟩, ⟨.symbol "x", 9⟩, ⟨.delimiter ',', 10⟩,
       ⟨.symbol "y", 12⟩, ⟨.delimiter ':', 13⟩, ⟨.number "7", 15⟩, ⟨.delimiter ',', 16⟩, ⟨.symbol "x", 18⟩,
       ⟨.delimiter ')', 19⟩, ⟨.delimiter '(', 20⟩, ⟨.delimiter ')', 21⟩] := rfl
  have seven : Derives room .expr 1 [.number "7"] (.literal (.int 7)) :=
    .primary (.literal rfl)
  have function : Derives room .expr 2 (lambdaLexemes ["x", "y"] ++ [.number "7"])
      (.lambda ["x", "y"] (.literal (.int 7))) := .lambda (by decide) (by decide) seven
  have argument : Derives room .expr 1 [.symbol "x"] (.name "x") := .primary (.name (by decide))
  have first : Derives room .primary _ _ _ :=
    .call [⟨2, _, _⟩, ⟨1, _, _⟩] (@Derives.name room "f" (by decide))
      (by rintro o (_ | ⟨_, _ | ⟨_, ⟨⟩⟩⟩) <;> assumption)
  have second := Derives.call [] first (by simp)
  exact ((read_accepts_grammar room _ _ scanned).1 _).mpr ⟨_, .primary second, by decide⟩

end LambdaCalc.Grammar
