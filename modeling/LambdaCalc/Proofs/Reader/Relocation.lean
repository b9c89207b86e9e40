import LambdaCalc.Proofs.Reader.Location
import LambdaCalc.Proofs.Token.Joining

namespace LambdaCalc.Reader

variable {room : Room} {f : Nat → Nat} {tokens others : List Token}

-- A reader carries the offsets of tokens along and never looks at them, so it may as well read tokens that carry
-- their number in the list instead; a text only says where in it the token of each number stands.

def State.relocate (f : Nat → Nat) : State → State
  | .firstParameter start => .firstParameter (f start)
  | .parameter start names => .parameter (f start) names
  | .afterParameter start names => .afterParameter (f start) names
  | state => state

def relocate (f : Nat → Nat) (r : Reader) : Reader := ⟨r.stack, r.state.relocate f⟩

/-- A result whose own offsets are moved by `g`, or the error at its moved offset. -/
def relocateIn {α : Type} (f : Nat → Nat) (g : α → α) : Except ReadError α → Except ReadError α
  | .ok a => .ok (g a)
  | .error err => .error (err.relocate f)

theorem start_relocate (f : Nat → Nat) (stack : List Context) (t : Token) :
    start room stack (t.relocate f) = relocateIn f (relocate f) (start room stack t) := by
  obtain ⟨lexeme, pos⟩ := t
  by_cases full : room.frames ≤ held room stack
  · simp only [start, full, ↓reduceIte]
    rfl
  cases lexeme with
  | number text =>
    simp only [start, full, ↓reduceIte, Token.relocate, Numeral.readAt]
    cases Numeral.read text with
    | ok n => rfl
    | error e => rfl
  | symbol name =>
    simp only [start, full, ↓reduceIte, Token.relocate]
    split
    · rfl
    · rfl
  | delimiter char =>
    simp only [start, full, ↓reduceIte, Token.relocate]
    split
    · rfl
    · rfl

theorem parameter_relocate (f : Nat → Nat) (stack : List Context) (start : Nat) (names : List String) (t : Token) :
    parameter stack (f start) names (t.relocate f) =
      relocateIn f (relocate f) (parameter stack start names t) := by
  obtain ⟨lexeme, pos⟩ := t
  cases lexeme with
  | number text => rfl
  | symbol name =>
    simp only [parameter, Token.relocate]
    split
    · rfl
    · rfl
  | delimiter char => rfl

theorem distinct_relocate (f : Nat → Nat) (start : Nat) (names : List String) :
    distinct (f start) names = relocateIn f id (distinct start names) := by
  unfold distinct
  split
  · rfl
  · rfl

theorem close_relocate (f : Nat → Nat) (stack : List Context) (e : Expr) (t : Token) :
    close stack e (t.relocate f) = relocateIn f (relocate f) (close stack e t) := by
  have kept : (t.relocate f).lexeme = t.lexeme := rfl
  induction stack generalizing e with
  | nil => rfl
  | cons context stack ih =>
    cases context with
    | body parameters => exact ih (.lambda parameters e)
    | group =>
      simp only [close, kept]
      split
      · rfl
      · rfl
    | operand operator before =>
      simp only [close, kept]
      split
      · rfl
      · split
        · rfl
        · rfl

theorem feed_relocate (f : Nat → Nat) (r : Reader) (t : Token) :
    (r.relocate f).feed room (t.relocate f) = relocateIn f (relocate f) (r.feed room t) := by
  obtain ⟨stack, state⟩ := r
  have kept : (t.relocate f).lexeme = t.lexeme := rfl
  cases state with
  | expr => exact start_relocate f stack t
  | firstOperand operator =>
    simp only [feed, relocate, State.relocate, kept]
    split
    · rfl
    · exact start_relocate f (.operand operator [] :: stack) t
  | firstParameter start =>
    simp only [feed, relocate, State.relocate, kept]
    split
    · rfl
    · exact parameter_relocate f stack start [] t
  | parameter start names => exact parameter_relocate f stack start names t
  | afterParameter start names =>
    simp only [feed, relocate, State.relocate, kept]
    split
    · rfl
    · rw [distinct_relocate]
      cases distinct start names with
      | error err => rfl
      | ok _ =>
        simp only [relocateIn, Except.bind]
        split
        · rfl
        · rfl
  | complete e =>
    simp only [feed, relocate, State.relocate, kept]
    split
    · rfl
    · exact close_relocate f stack e t

theorem run_relocate (f : Nat → Nat) (r : Reader) (tokens : List Token) :
    run room (r.relocate f) (tokens.map (Token.relocate f)) =
      relocateIn f (relocate f) (run room r tokens) := by
  induction tokens generalizing r with
  | nil => rfl
  | cons t rest ih =>
    rw [List.map_cons, Grammar.run_cons, Grammar.run_cons, feed_relocate]
    cases r.feed room t with
    | error err => rfl
    | ok next => exact ih next

theorem closeEnd_relocate (f : Nat → Nat) (stop : Nat) (stack : List Context) (e : Expr) :
    closeEnd (f stop) stack e = relocateIn f id (closeEnd stop stack e) := by
  induction stack generalizing e with
  | nil => rfl
  | cons context stack ih =>
    cases context with
    | body parameters => exact ih (.lambda parameters e)
    | group => rfl
    | operand operator before => rfl

theorem finish_relocate (f : Nat → Nat) (r : Reader) (stop : Nat) :
    (r.relocate f).finish room (f stop) = relocateIn f id (r.finish room stop) := by
  obtain ⟨stack, state⟩ := r
  cases state with
  | complete e => exact closeEnd_relocate f stop stack e
  | afterParameter start names =>
    simp only [finish, relocate, State.relocate]
    rw [distinct_relocate]
    cases distinct start names with
    | error err => rfl
    | ok _ => rfl
  | expr | firstOperand | firstParameter | parameter => rfl

def numbered (lexemes : List Lexeme) : List Token := lexemes.mapIdx fun i lexeme => ⟨lexeme, i⟩

/-- The offset of the token with the number; behind the last number, the end of the last token. -/
def offsetOf (tokens : List Token) (i : Nat) : Nat := (tokens[i]?.map Token.pos).getD (endOf tokens)

theorem map_numbered (tokens : List Token) :
    (numbered (tokens.map Token.lexeme)).map (Token.relocate (offsetOf tokens)) = tokens := by
  apply List.ext_getElem?
  intro i
  simp only [numbered, List.getElem?_map, List.getElem?_mapIdx]
  cases here : tokens[i]? with
  | none => rfl
  | some t => simp only [Option.map_some, Token.relocate, offsetOf, here, Option.getD_some]

theorem offsetOf_length (tokens : List Token) : offsetOf tokens tokens.length = endOf tokens := by
  rw [offsetOf, List.getElem?_eq_none (Nat.le_refl _), Option.map_none, Option.getD_none]

/-- The expression that the lexemes spell, or the error at the number of a token. -/
def ofLexemes (room : Room) (lexemes : List Lexeme) : Except ReadError Expr :=
  (run room {} (numbered lexemes)).bind fun r => r.finish room lexemes.length

theorem ofTokens_eq_ofLexemes (room : Room) (tokens : List Token) :
    Expr.ofTokens room tokens =
      relocateIn (offsetOf tokens) id (ofLexemes room (tokens.map Token.lexeme)) := by
  have ran := @run_relocate room (offsetOf tokens) {} (numbered (tokens.map Token.lexeme))
  rw [map_numbered] at ran
  rw [Grammar.ofTokens_eq_run]
  change (run room (relocate (offsetOf tokens) {}) tokens).bind (fun r => r.finish room (endOf tokens)) = _
  rw [ran, ofLexemes, List.length_map]
  cases run room {} (numbered (tokens.map Token.lexeme)) with
  | error err => rfl
  | ok r =>
    have finished := @finish_relocate room (offsetOf tokens) r tokens.length
    rw [offsetOf_length] at finished
    exact finished

/-- The offsets are those of the two tokens with one number, or both are the end of the last token. -/
inductive SamePlace (tokens others : List Token) : Nat → Nat → Prop where
  | token {i : Nat} {t u : Token} (here : tokens[i]? = some t) (there : others[i]? = some u) :
      SamePlace tokens others t.pos u.pos
  | stop {t u : Token} (last : tokens.getLast? = some t) (otherLast : others.getLast? = some u) :
      SamePlace tokens others t.stop u.stop

theorem samePlace_offsetOf (same : tokens.map Token.lexeme = others.map Token.lexeme) (nonempty : tokens ≠ [])
    (i : Nat) : SamePlace tokens others (offsetOf tokens i) (offsetOf others i) := by
  have length : tokens.length = others.length := by
    have lengths := congrArg List.length same
    rwa [List.length_map, List.length_map] at lengths
  by_cases inside : i < tokens.length
  · have here := List.getElem?_eq_getElem inside
    have there := List.getElem?_eq_getElem (length ▸ inside)
    have place := SamePlace.token here there
    simpa only [offsetOf, here, there, Option.map_some, Option.getD_some] using place
  · have otherNonempty : others ≠ [] := by
      rw [← List.length_pos_iff] at nonempty ⊢
      omega
    have last := List.getLast?_eq_some_getLast nonempty
    have otherLast := List.getLast?_eq_some_getLast otherNonempty
    have place := SamePlace.stop last otherLast
    have beyond : tokens[i]? = none := List.getElem?_eq_none (by omega)
    have otherBeyond : others[i]? = none := List.getElem?_eq_none (by omega)
    simpa only [offsetOf, beyond, otherBeyond, Option.map_none, Option.getD_none, endOf, last, otherLast,
      Option.map_some, Option.getD_some] using place

/-- Texts with the same lexemes are read alike: both as nothing or as the same expression, or both are refused
for the same reason, at the same token or at the end of the last one. -/
theorem read_alike_of_lexemes (room : Room) (source other : String) (tokens others : List Token)
    (scanned : Token.scan source = .ok tokens) (otherScanned : Token.scan other = .ok others)
    (same : tokens.map Token.lexeme = others.map Token.lexeme) :
    (∃ result, Expr.read room source = .ok result ∧ Expr.read room other = .ok result) ∨
    ∃ reason i j, Expr.read room source = .error ⟨reason, some i⟩ ∧ Expr.read room other = .error ⟨reason, some j⟩ ∧
      SamePlace tokens others i j := by
  by_cases blank : tokens = []
  · have otherBlank : others = [] := by
      rw [blank, List.map_nil] at same
      exact List.map_eq_nil_iff.mp same.symm
    refine .inl ⟨none, ?_, ?_⟩
    · rw [Expr.read, scanned, blank]
      rfl
    · rw [Expr.read, otherScanned, otherBlank]
      rfl
  · have otherBlank : others ≠ [] := by
      intro none
      rw [none, List.map_nil] at same
      exact blank (List.map_eq_nil_iff.mp same)
    have spelled := ofTokens_eq_ofLexemes room tokens
    have otherSpelled := ofTokens_eq_ofLexemes room others
    rw [← same] at otherSpelled
    cases result : ofLexemes room (tokens.map Token.lexeme) with
    | ok e =>
      rw [result] at spelled otherSpelled
      have read := (Grammar.read_eq_some_iff scanned).mpr spelled
      have otherRead := (Grammar.read_eq_some_iff otherScanned).mpr otherSpelled
      exact .inl ⟨some e, read, otherRead⟩
    | error err =>
      obtain ⟨reason, place⟩ := err
      rw [result] at spelled otherSpelled
      have failed := Grammar.read_eq_error_of_ofTokens scanned blank spelled
      have otherFailed := Grammar.read_eq_error_of_ofTokens otherScanned otherBlank otherSpelled
      -- Every error has a place, in the numbered tokens as well as in the text.
      obtain ⟨p, position, -⟩ := (located_of_read failed).position_le
      obtain ⟨i, rfl, -⟩ := Option.map_eq_some_iff.mp position
      exact .inr ⟨reason, _, _, failed, otherFailed, samePlace_offsetOf same blank i⟩

/-- The offset of the lambda is kept until its parameters are compared, and differs from layout to layout. -/
theorem read_alike_of_lexemes_repeated :
    let room := Stack.usual.reading
    Expr.read room "f(lambda x,x:1" = .error ⟨.duplicateParameter "x", some 2⟩ ∧
      Expr.read room " f (\nlambda x, x : 1" = .error ⟨.duplicateParameter "x", some 5⟩ ∧
      SamePlace
        [⟨.symbol "f", 0⟩, ⟨.delimiter '(', 1⟩, ⟨.symbol "lambda", 2⟩, ⟨.symbol "x", 9⟩, ⟨.delimiter ',', 10⟩,
          ⟨.symbol "x", 11⟩, ⟨.delimiter ':', 12⟩, ⟨.number "1", 13⟩]
        [⟨.symbol "f", 1⟩, ⟨.delimiter '(', 3⟩, ⟨.symbol "lambda", 5⟩, ⟨.symbol "x", 12⟩, ⟨.delimiter ',', 13⟩,
          ⟨.symbol "x", 15⟩, ⟨.delimiter ':', 17⟩, ⟨.number "1", 19⟩] 2 5 := by
  intro room
  have close : Token.scan "f(lambda x,x:1" = .ok
      [⟨.symbol "f", 0⟩, ⟨.delimiter '(', 1⟩, ⟨.symbol "lambda", 2⟩, ⟨.symbol "x", 9⟩, ⟨.delimiter ',', 10⟩,
        ⟨.symbol "x", 11⟩, ⟨.delimiter ':', 12⟩, ⟨.number "1", 13⟩] := rfl
  have wide : Token.scan " f (\nlambda x, x : 1" = .ok
      [⟨.symbol "f", 1⟩, ⟨.delimiter '(', 3⟩, ⟨.symbol "lambda", 5⟩, ⟨.symbol "x", 12⟩, ⟨.delimiter ',', 13⟩,
        ⟨.symbol "x", 15⟩, ⟨.delimiter ':', 17⟩, ⟨.number "1", 19⟩] := rfl
  have failed : Expr.read room "f(lambda x,x:1" = .error ⟨.duplicateParameter "x", some 2⟩ := rfl
  have otherFailed : Expr.read room " f (\nlambda x, x : 1" = .error ⟨.duplicateParameter "x", some 5⟩ := rfl
  refine ⟨failed, otherFailed, ?_⟩
  rcases read_alike_of_lexemes room _ _ _ _ close wide rfl with
    ⟨result, read, -⟩ | ⟨reason, i, j, read, otherRead, place⟩
  · rw [failed] at read
    cases read
  · rw [failed] at read
    rw [otherFailed] at otherRead
    cases read
    cases otherRead
    exact place

end LambdaCalc.Reader
