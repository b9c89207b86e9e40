import LambdaCalc.Proofs.Grammar.Prefixes
import Mathlib.Data.List.Forall2
import Mathlib.Data.List.Nodup

namespace LambdaCalc

open Grammar

namespace Reader

/-- Lexemes that differ at most in the number or in the name that they give. -/
inductive LexemeAlike : Lexeme → Lexeme → Prop where
  | number (text other : String) : LexemeAlike (.number text) (.number other)
  | keyword : LexemeAlike (.symbol Reader.keyword) (.symbol Reader.keyword)
  | name {name other : String} (free : name ≠ Reader.keyword) (otherFree : other ≠ Reader.keyword) :
      LexemeAlike (.symbol name) (.symbol other)
  | delimiter (char : Char) : LexemeAlike (.delimiter char) (.delimiter char)

inductive StackAlike : List Context → List Context → Prop where
  | nil : StackAlike [] []
  | group {stack other : List Context} (outer : StackAlike stack other) :
      StackAlike (.group :: stack) (.group :: other)
  | body {stack other : List Context} (names others : List String) (outer : StackAlike stack other) :
      StackAlike (.body names :: stack) (.body others :: other)
  | operand {stack other : List Context} (f g : Expr) (before behind : List Expr) (outer : StackAlike stack other) :
      StackAlike (.operand f before :: stack) (.operand g behind :: other)

inductive StateAlike : State → State → Prop where
  | expr : StateAlike .expr .expr
  | firstOperand (f g : Expr) : StateAlike (.firstOperand f) (.firstOperand g)
  | firstParameter (start begin : Nat) : StateAlike (.firstParameter start) (.firstParameter begin)
  | parameter (start begin : Nat) (names others : List String) :
      StateAlike (.parameter start names) (.parameter begin others)
  | afterParameter (start begin : Nat) (names others : List String) :
      StateAlike (.afterParameter start names) (.afterParameter begin others)
  | complete (d e : Expr) : StateAlike (.complete d) (.complete e)

/-- Readers that stand at the same place of the grammar, whatever they have read. -/
structure Alike (r s : Reader) : Prop where
  stack : StackAlike r.stack s.stack
  state : StateAlike r.state s.state

theorem LexemeAlike.refl (lexeme : Lexeme) : LexemeAlike lexeme lexeme := by
  cases lexeme with
  | number text => exact .number text text
  | symbol name =>
    by_cases same : name = Reader.keyword
    · rw [same]
      exact .keyword
    · exact .name same same
  | delimiter char => exact .delimiter char

theorem LexemeAlike.eq_delimiter_iff {lexeme other : Lexeme} (like : LexemeAlike lexeme other) (char : Char) :
    lexeme = .delimiter char ↔ other = .delimiter char := by
  cases like with
  | delimiter c => exact Iff.rfl
  | number | keyword | name => constructor <;> (intro clash; cases clash)

theorem StackAlike.refl (stack : List Context) : StackAlike stack stack := by
  induction stack with
  | nil => exact .nil
  | cons context stack ih =>
    cases context with
    | group => exact .group ih
    | body names => exact .body names names ih
    | operand f before => exact .operand f f before before ih

theorem Alike.refl (r : Reader) : Alike r r := by
  refine ⟨.refl r.stack, ?_⟩
  cases r.state with
  | expr => exact .expr
  | firstOperand f => exact .firstOperand f f
  | firstParameter start => exact .firstParameter start start
  | parameter start names => exact .parameter start start names names
  | afterParameter start names => exact .afterParameter start start names names
  | complete e => exact .complete e e

/-- The error names the token and stands at its offset. -/
inductive Blames (t : Token) : ReadError → Prop where
  | unexpected : Blames t ⟨.unexpectedToken t.lexeme.shown, some t.pos⟩
  | expected (char : Char) : Blames t ⟨.expected (delimiterText char) (some t.lexeme.shown), some t.pos⟩
  | notParameter : Blames t ⟨.notParameter t.lexeme.shown, some t.pos⟩
  | trailing : Blames t ⟨.trailing, some t.pos⟩

/-- The token does not come into it where the grammar alone would let it. -/
inductive Halts (t : Token) (state : State) : ReadError → Prop where
  | tooDeep : Halts t state ⟨.tooDeep, some t.pos⟩
  | numeral {text : String} {e : Numeral.Error} (lexeme : t.lexeme = .number text)
      (refused : Numeral.read text = .error e) : Halts t state ⟨.numeral e, some t.pos⟩
  | repeated {start : Nat} {names : List String} {err : ReadError}
      (listed : state = .afterParameter start names) (clash : distinct start names = .error err) :
      Halts t state err

/-- How two readers go on with a token each: together, or neither, or one of them is halted. -/
inductive Follows (t u : Token) (state other : State) : Except ReadError Reader → Except ReadError Reader → Prop where
  | step {r s : Reader} (alike : Alike r s) : Follows t u state other (.ok r) (.ok s)
  | blamed {err otherErr : ReadError} (blames : Blames t err) (otherBlames : Blames u otherErr) :
      Follows t u state other (.error err) (.error otherErr)
  | halts {err : ReadError} {result : Except ReadError Reader} (halts : Halts t state err) :
      Follows t u state other (.error err) result
  | otherHalts {err : ReadError} {result : Except ReadError Reader} (halts : Halts u other err) :
      Follows t u state other result (.error err)

section

variable {room wide : Room} {t u : Token} {state otherState : State} {stack other : List Context}

theorem start_follows (below : StackAlike stack other) (like : LexemeAlike t.lexeme u.lexeme) :
    Follows t u state otherState (Reader.start room stack t) (Reader.start wide other u) := by
  obtain ⟨lexeme, pos⟩ := t
  obtain ⟨otherLexeme, otherPos⟩ := u
  unfold Reader.start
  by_cases full : room.frames ≤ held room stack
  · rw [if_pos full]
    exact .halts .tooDeep
  by_cases otherFull : wide.frames ≤ held wide other
  · rw [if_pos otherFull]
    exact .otherHalts .tooDeep
  rw [if_neg full, if_neg otherFull]
  dsimp only at like ⊢
  cases like with
  | number text otherText =>
    dsimp only
    cases read : Numeral.readAt (some pos) text with
    | error err =>
      obtain ⟨e, refused, rfl⟩ := Numeral.readAt_eq_error_iff.mp read
      exact .halts (.numeral rfl refused)
    | ok n =>
      cases otherRead : Numeral.readAt (some otherPos) otherText with
      | error err =>
        obtain ⟨e, refused, rfl⟩ := Numeral.readAt_eq_error_iff.mp otherRead
        exact .otherHalts (.numeral rfl refused)
      | ok m => exact .step ⟨below, .complete _ _⟩
  | keyword => exact .step ⟨below, .firstParameter _ _⟩
  | name free otherFree =>
    simp only [free, otherFree, ↓reduceIte]
    exact .step ⟨below, .complete _ _⟩
  | delimiter char =>
    dsimp only
    split
    · exact .step ⟨.group below, .expr⟩
    · exact .blamed .unexpected .unexpected

theorem parameter_follows (below : StackAlike stack other) (start begin : Nat) (names others : List String)
    (like : LexemeAlike t.lexeme u.lexeme) :
    Follows t u state otherState (parameter stack start names t) (parameter other begin others u) := by
  obtain ⟨lexeme, pos⟩ := t
  obtain ⟨otherLexeme, otherPos⟩ := u
  unfold parameter
  dsimp only at like ⊢
  cases like with
  | name free otherFree =>
    simp only [free, otherFree, ↓reduceIte]
    exact .step ⟨below, .afterParameter _ _ _ _⟩
  | number | keyword | delimiter => exact .blamed .notParameter .notParameter

theorem close_follows (below : StackAlike stack other) (d e : Expr) (like : LexemeAlike t.lexeme u.lexeme) :
    Follows t u state otherState (close stack d t) (close other e u) := by
  induction below generalizing d e with
  | nil => exact .blamed .trailing .trailing
  | body names others outer ih => exact ih (.lambda names d) (.lambda others e)
  | group outer ih =>
    simp only [close, like.eq_delimiter_iff]
    split
    · exact .step ⟨outer, .complete _ _⟩
    · exact .blamed (.expected ')') (.expected ')')
  | operand f g before behind outer ih =>
    simp only [close, like.eq_delimiter_iff]
    split
    · exact .step ⟨.operand _ _ _ _ outer, .expr⟩
    · split
      · exact .step ⟨outer, .complete _ _⟩
      · exact .blamed (.expected ')') (.expected ')')

theorem feed_follows {r s : Reader} (alike : Alike r s) (like : LexemeAlike t.lexeme u.lexeme) :
    Follows t u r.state s.state (r.feed room t) (s.feed wide u) := by
  obtain ⟨stack, state⟩ := r
  obtain ⟨other, otherState⟩ := s
  obtain ⟨below, states⟩ := alike
  cases states with
  | expr => exact start_follows below like
  | firstOperand f g =>
    simp only [feed, like.eq_delimiter_iff]
    split
    · exact .step ⟨below, .complete _ _⟩
    · exact start_follows (.operand f g [] [] below) like
  | firstParameter start begin =>
    simp only [feed, like.eq_delimiter_iff]
    split
    · exact .step ⟨.body _ _ below, .expr⟩
    · exact parameter_follows below start begin [] [] like
  | parameter start begin names others => exact parameter_follows below start begin names others like
  | afterParameter start begin names others =>
    simp only [feed, like.eq_delimiter_iff]
    split
    · exact .step ⟨below, .parameter _ _ _ _⟩
    · cases check : distinct start names with
      | error err => exact .halts (.repeated rfl check)
      | ok _ =>
        cases otherCheck : distinct begin others with
        | error err => exact .otherHalts (.repeated rfl otherCheck)
        | ok _ =>
          simp only [Except.bind]
          split
          · exact .step ⟨.body _ _ below, .expr⟩
          · exact .blamed (.expected ':') (.expected ':')
  | complete d e =>
    simp only [feed, like.eq_delimiter_iff]
    split
    · exact .step ⟨below, .firstOperand _ _⟩
    · exact close_follows below d e like

end

variable {room wide : Room} {r s last : Reader} {tokens others : List Token} {rest : List Lexeme}

theorem run_alike {q : Reader} (alike : Alike r s) (ran : run room r tokens = .ok q)
    (otherRan : run wide s others = .ok last)
    (like : List.Forall₂ LexemeAlike (tokens.map Token.lexeme ++ rest) (others.map Token.lexeme)) :
    ∃ p ahead, Alike q p ∧ run wide p ahead = .ok last ∧ List.Forall₂ LexemeAlike rest (ahead.map Token.lexeme) := by
  induction tokens generalizing r s others with
  | nil =>
    cases ran
    exact ⟨s, others, alike, otherRan, like⟩
  | cons t tokens ih =>
    cases others with
    | nil => cases like
    | cons u others =>
      obtain ⟨here, later⟩ := List.forall₂_cons.mp like
      obtain ⟨next, fed, goesOn⟩ := run_cons_eq_ok.mp ran
      obtain ⟨otherNext, otherFed, otherGoesOn⟩ := run_cons_eq_ok.mp otherRan
      have follows := @feed_follows room wide t u r s alike here
      rw [fed, otherFed] at follows
      cases follows with
      | step alike => exact ih alike goesOn otherGoesOn later

theorem closeEnd_alike {stack other : List Context} (below : StackAlike stack other) {stop otherStop : Nat}
    {d e whole : Expr} (closed : closeEnd otherStop other e = .ok whole) :
    ∃ all, closeEnd stop stack d = .ok all := by
  induction below generalizing d e with
  | nil => exact ⟨d, rfl⟩
  | body names others outer ih => exact ih closed
  | group | operand => cases closed

theorem finish_alike (alike : Alike r s) {stop otherStop : Nat} {e : Expr}
    (finished : s.finish wide otherStop = .ok e) : ∃ d, r.finish room stop = .ok d := by
  obtain ⟨stack, state⟩ := r
  obtain ⟨other, otherState⟩ := s
  obtain ⟨below, states⟩ := alike
  cases states with
  | complete => exact closeEnd_alike below finished
  | afterParameter start begin names others =>
    simp only [finish] at finished
    cases check : distinct begin others <;> (rw [check] at finished; cases finished)
  | expr | firstOperand | firstParameter | parameter => cases finished

end Reader

namespace Grammar

open Reader

def freshNames (count : Nat) : List String := (List.range count).map fun i => String.ofList (List.replicate i 'x')

theorem nodup_freshNames (count : Nat) : (freshNames count).Nodup := by
  refine List.Nodup.map ?_ List.nodup_range
  intro i j same
  have lengths := congrArg List.length (String.ofList_injective same)
  rwa [List.length_replicate, List.length_replicate] at lengths

theorem ne_keyword_of_mem_freshNames {count : Nat} {name : String} (member : name ∈ freshNames count) :
    name ≠ keyword := by
  obtain ⟨i, -, rfl⟩ := List.mem_map.mp member
  intro same
  have letters : List.replicate i 'x' = keyword.toList := by rw [← same, String.toList_ofList]
  have first : 'l' ∈ List.replicate i 'x' := by
    rw [letters]
    decide
  exact absurd (List.eq_of_mem_replicate first) (by decide)

theorem parameterLexemes_alike {names others : List String} (length : names.length = others.length)
    (free : ∀ name ∈ names, name ≠ keyword) (otherFree : ∀ name ∈ others, name ≠ keyword) :
    List.Forall₂ LexemeAlike (parameterLexemes names) (parameterLexemes others) := by
  induction names generalizing others with
  | nil =>
    cases others with
    | nil => exact .nil
    | cons other others => cases length
  | cons name names ih =>
    cases others with
    | nil => cases length
    | cons other others =>
      obtain ⟨here, later⟩ := List.forall_mem_cons.mp free
      obtain ⟨there, further⟩ := List.forall_mem_cons.mp otherFree
      have tail := ih (Nat.succ.inj length) later further
      cases names with
      | nil =>
        cases others with
        | nil => exact .cons (.name here there) .nil
        | cons other others => cases length
      | cons second names =>
        cases others with
        | nil => cases length
        | cons otherSecond others =>
          rw [parameterLexemes_cons, parameterLexemes_cons]
          exact .cons (.name here there) (.cons (.delimiter ',') tail)

theorem exists_operands {room : Room} {operands : List (List Lexeme)}
    (each : ∀ o ∈ operands, ∃ n lexemes e, List.Forall₂ LexemeAlike o lexemes ∧ Derives room .expr n lexemes e) :
    ∃ derived : List Operand, (∀ o ∈ derived, Derives room .expr o.nesting o.lexemes o.expr) ∧
      List.Forall₂ LexemeAlike ([comma].intercalate operands) (operandLexemes derived) ∧
      operands.length = derived.length := by
  induction operands with
  | nil => exact ⟨[], by simp, .nil, rfl⟩
  | cons o operands ih =>
    obtain ⟨n, lexemes, e, like, derivation⟩ := each o List.mem_cons_self
    obtain ⟨derived, members, alike, length⟩ := ih fun p member => each p (List.mem_cons_of_mem o member)
    refine ⟨⟨n, lexemes, e⟩ :: derived, List.forall_mem_cons.mpr ⟨derivation, members⟩, ?_, by simp [length]⟩
    cases operands with
    | nil =>
      obtain rfl := List.eq_nil_of_length_eq_zero length.symm
      rw [operandLexemes_singleton]
      simpa using like
    | cons p operands =>
      cases derived with
      | nil => cases length
      | cons q derived =>
        rw [operandLexemes_cons, List.intercalate_cons_cons, List.append_assoc]
        exact List.rel_append like (.cons (.delimiter ',') alike)

theorem Phrase.exists_derives (room : Room) {nonterminal : Nonterminal} {lexemes : List Lexeme}
    (phrase : Phrase nonterminal lexemes) :
    ∃ n others e, List.Forall₂ LexemeAlike lexemes others ∧ Derives room nonterminal n others e := by
  induction phrase with
  | literal text => exact ⟨_, [.number "0"], _, .cons (.number text "0") .nil, .literal rfl⟩
  | name free => exact ⟨_, _, _, .cons (.name free free) .nil, .name free⟩
  | group inside ih =>
    obtain ⟨n, others, e, like, derivation⟩ := ih
    exact ⟨_, _, e, .cons (.delimiter '(') (List.rel_append like (.cons (.delimiter ')') .nil)), .group derivation⟩
  | call operands before inside first rest =>
    obtain ⟨n, others, e, like, derivation⟩ := first
    obtain ⟨derived, members, alike, -⟩ := exists_operands rest
    refine ⟨_, _, _, ?_, .call derived derivation members⟩
    exact List.rel_append (List.rel_append like (.cons (.delimiter '(') alike)) (.cons (.delimiter ')') .nil)
  | primary whole ih =>
    obtain ⟨n, others, e, like, derivation⟩ := ih
    exact ⟨n, others, e, like, .primary derivation⟩
  | @lambda names inner free inside ih =>
    obtain ⟨n, others, e, like, derivation⟩ := ih
    have fresh : ∀ name ∈ freshNames names.length, name ≠ keyword := fun _ => ne_keyword_of_mem_freshNames
    have parameters := parameterLexemes_alike (by rw [freshNames, List.length_map, List.length_range]) free fresh
    refine ⟨_, _, _, ?_, .lambda fresh (nodup_freshNames names.length) derivation⟩
    exact List.rel_append (.cons .keyword (List.rel_append parameters (.cons (.delimiter ':') .nil))) like

end Grammar

end LambdaCalc
