import LambdaCalc.Proofs.Grammar.Completeness

namespace LambdaCalc.Grammar

open Reader

variable {room : Room}

/-- The lexemes that open the contexts of a stack, the innermost context last. -/
inductive Opens (room : Room) : List Context → List Lexeme → Prop where
  | nil : Opens room [] []
  | group {stack : List Context} {front : List Lexeme} (outer : Opens room stack front) :
      Opens room (.group :: stack) (front ++ [.delimiter '('])
  | body {stack : List Context} {front : List Lexeme} {names : List String}
      (outer : Opens room stack front) (free : ∀ name ∈ names, name ≠ keyword)
      (nodup : names.Nodup) :
      Opens room (.body names :: stack) (front ++ lambdaLexemes names)
  | operand {stack : List Context} {front called : List Lexeme} {n : Nat} {operator : Expr}
      (operands : List Operand) (outer : Opens room stack front)
      (before : Derives room .primary n called operator) (fits : held room stack + n ≤ room.frames)
      (inside : ∀ o ∈ operands, Derives room .expr o.nesting o.lexemes o.expr)
      (each : ∀ o ∈ operands, held room stack + (o.nesting + room.operand) ≤ room.frames) :
      Opens room (.operand operator (operands.map Operand.expr) :: stack)
        (front ++ called ++ .delimiter '(' :: operands.flatMap fun o => o.lexemes ++ [comma])

/-- What stands between the open contexts and the next lexeme. -/
def Pending (room : Room) (depth : Nat) : State → List Lexeme → Prop
  | .expr, lexemes => lexemes = []
  | .complete e, lexemes => ∃ n, Derives room .primary n lexemes e ∧ depth + n ≤ room.frames
  | .firstOperand operator, lexemes =>
    ∃ n called, Derives room .primary n called operator ∧ depth + n ≤ room.frames ∧
      lexemes = called ++ [.delimiter '(']
  | .firstParameter _, lexemes => lexemes = [.symbol keyword]
  | .parameter _ names, lexemes =>
    names ≠ [] ∧ (∀ name ∈ names, name ≠ keyword) ∧
      lexemes = .symbol keyword :: parameterLexemes names ++ [comma]
  | .afterParameter _ names, lexemes =>
    names ≠ [] ∧ (∀ name ∈ names, name ≠ keyword) ∧
      lexemes = .symbol keyword :: parameterLexemes names

/-- The lexemes bring a reader from the beginning to where it stands. -/
def Reached (room : Room) (r : Reader) (lexemes : List Lexeme) : Prop :=
  ∃ front back, Opens room r.stack front ∧ Pending room (held room r.stack) r.state back ∧
    lexemes = front ++ back

theorem start_reached {stack : List Context} {front : List Lexeme} {t : Token} {s : Reader}
    (opens : Opens room stack front) (started : Reader.start room stack t = .ok s) :
    Reached room s (front ++ [t.lexeme]) := by
  rw [Reader.start] at started
  split at started
  · cases started
  rename_i free
  have fits : held room stack + 1 ≤ room.frames := Nat.lt_of_not_le free
  split at started
  · rename_i text lexeme
    split at started
    · rename_i value numeral
      cases started
      exact ⟨front, _, opens, ⟨1, .literal (Numeral.readAt_eq_ok_iff.mp numeral), fits⟩, by rw [lexeme]⟩
    · cases started
  · rename_i name lexeme
    split at started
    · rename_i same
      cases started
      exact ⟨front, _, opens, rfl, by rw [lexeme, same]⟩
    · rename_i free
      cases started
      exact ⟨front, _, opens, ⟨1, .name free, fits⟩, by rw [lexeme]⟩
  · rename_i char lexeme
    split at started
    · rename_i opening
      cases started
      exact ⟨_, [], .group opens, rfl, by rw [lexeme, opening, List.append_nil]⟩
    · cases started

theorem parameter_inv {stack : List Context} {start : Nat} {names : List String} {t : Token}
    {s : Reader} (free : ∀ name ∈ names, name ≠ keyword)
    (read : parameter stack start names t = .ok s) :
    ∃ name, t.lexeme = .symbol name ∧ s = ⟨stack, .afterParameter start (names ++ [name])⟩ ∧
      ∀ other ∈ names ++ [name], other ≠ keyword := by
  simp only [parameter] at read
  split at read
  · rename_i name lexeme
    split at read
    · cases read
    · rename_i named
      cases read
      exact ⟨name, lexeme, rfl, List.forall_mem_append.mpr ⟨free, List.forall_mem_singleton.mpr named⟩⟩
  · cases read

theorem close_reached {stack : List Context} {front lexemes : List Lexeme} {n : Nat} {e : Expr}
    {t : Token} {s : Reader} (opens : Opens room stack front)
    (derivation : Derives room .expr n lexemes e) (fits : held room stack + n ≤ room.frames)
    (closed : close stack e t = .ok s) : Reached room s (front ++ lexemes ++ [t.lexeme]) := by
  -- A lambda ends with its body, so one lexeme may close several contexts.
  induction opens generalizing lexemes n e with
  | nil => cases closed
  | @group stack front outer ih =>
    rw [held, Context.frames] at fits
    simp only [close] at closed
    split at closed
    · rename_i closing
      cases closed
      refine ⟨front, _, outer, ⟨_, .group derivation, ?_⟩, ?_⟩
      · show held room stack + (n + room.group) ≤ room.frames
        omega
      · rw [closing]
        simp
    · cases closed
  | @body stack front names outer free nodup ih =>
    rw [held, Context.frames] at fits
    have whole := ih (.lambda free nodup derivation) (by omega) closed
    simpa only [List.append_assoc] using whole
  | @operand stack front called m operator operands outer before width inside each ih =>
    have nesting : held room stack + (n + room.operand) ≤ room.frames := by
      rw [held, Context.frames] at fits
      omega
    let last : Operand := ⟨n, lexemes, e⟩
    have members : ∀ o ∈ operands ++ [last], Derives room .expr o.nesting o.lexemes o.expr :=
      List.forall_mem_append.mpr ⟨inside, List.forall_mem_singleton.mpr derivation⟩
    have bounds : ∀ o ∈ operands ++ [last], held room stack + (o.nesting + room.operand) ≤ room.frames :=
      List.forall_mem_append.mpr ⟨each, List.forall_mem_singleton.mpr nesting⟩
    have exprs : operands.map Operand.expr ++ [e] = (operands ++ [last]).map Operand.expr := by
      simp [last]
    simp only [close, exprs] at closed
    split at closed
    · rename_i between
      cases closed
      refine ⟨_, [], .operand (operands ++ [last]) outer before width members bounds, rfl, ?_⟩
      rw [between]
      simp [last, comma]
    · split at closed
      · rename_i closing
        cases closed
        refine ⟨front, _, outer, ⟨_, .call (operands ++ [last]) before members, ?_⟩, ?_⟩
        · have deep : operandNesting room (operands ++ [last]) ≤ room.frames - held room stack :=
            operandNesting_le fun o member => by have := bounds o member; omega
          show held room stack + max m (operandNesting room (operands ++ [last])) ≤ room.frames
          omega
        · rw [closing, operandLexemes_concat]
          simp [last]
      · cases closed

theorem firstOperand_reached {stack : List Context} {front back : List Lexeme} {operator : Expr}
    {t : Token} {s : Reader} (opens : Opens room stack front)
    (pending : Pending room (held room stack) (.firstOperand operator) back)
    (fed : feed room ⟨stack, .firstOperand operator⟩ t = .ok s) :
    Reached room s (front ++ back ++ [t.lexeme]) := by
  simp only [feed] at fed
  obtain ⟨n, called, before, fits, rfl⟩ := pending
  split at fed
  · rename_i closing
    cases fed
    refine ⟨front, _, opens, ⟨_, .call [] before (by simp), ?_⟩, ?_⟩
    · simpa only [operandNesting, List.map_nil, List.foldr_nil, Nat.max_zero] using fits
    · rw [closing]
      simp [operandLexemes]
  · have opened : Opens room (.operand operator [] :: stack) (front ++ called ++ [.delimiter '(']) :=
      .operand [] opens before fits (by simp) (by simp)
    rw [← List.append_assoc]
    exact start_reached opened fed

theorem firstParameter_reached {stack : List Context} {front : List Lexeme} {start : Nat} {t : Token}
    {s : Reader} (opens : Opens room stack front)
    (fed : feed room ⟨stack, .firstParameter start⟩ t = .ok s) :
    Reached room s (front ++ [.symbol keyword] ++ [t.lexeme]) := by
  simp only [feed] at fed
  split at fed
  · rename_i colon
    cases fed
    refine ⟨_, [], .body opens (by simp) List.nodup_nil, rfl, ?_⟩
    rw [colon, List.append_nil, List.append_assoc]
    rfl
  · obtain ⟨name, lexeme, rfl, free⟩ := parameter_inv (by simp) fed
    refine ⟨front, _, opens, ⟨by simp, free, rfl⟩, ?_⟩
    rw [lexeme]
    simp [parameterLexemes]

theorem afterParameter_reached {stack : List Context} {front back : List Lexeme} {start : Nat}
    {names : List String} {t : Token} {s : Reader} (opens : Opens room stack front)
    (pending : Pending room (held room stack) (.afterParameter start names) back)
    (fed : feed room ⟨stack, .afterParameter start names⟩ t = .ok s) :
    Reached room s (front ++ back ++ [t.lexeme]) := by
  simp only [feed] at fed
  obtain ⟨nonempty, free, rfl⟩ := pending
  split at fed
  · rename_i between
    cases fed
    refine ⟨front, _, opens, ⟨nonempty, free, rfl⟩, ?_⟩
    rw [between]
    simp [comma]
  · -- Names are compared only here, at the end of the list.
    cases check : distinct start names with
    | error e =>
      rw [check] at fed
      cases fed
    | ok _ =>
      rw [check] at fed
      simp only [Except.bind] at fed
      split at fed
      · rename_i colon
        cases fed
        refine ⟨_, [], .body opens free ((distinct_eq_ok start names).mp check), rfl, ?_⟩
        rw [colon, List.append_nil, List.append_assoc]
        rfl
      · cases fed

theorem feed_reached {r s : Reader} {lexemes : List Lexeme} {t : Token}
    (reached : Reached room r lexemes) (fed : r.feed room t = .ok s) :
    Reached room s (lexemes ++ [t.lexeme]) := by
  obtain ⟨front, back, opens, pending, rfl⟩ := reached
  obtain ⟨stack, state⟩ := r
  cases state with
  | expr =>
    cases pending
    rw [List.append_nil]
    exact start_reached opens fed
  | firstOperand operator => exact firstOperand_reached opens pending fed
  | firstParameter start =>
    cases pending
    exact firstParameter_reached opens fed
  | parameter start names =>
    obtain ⟨nonempty, free, rfl⟩ := pending
    obtain ⟨name, lexeme, rfl, free⟩ := parameter_inv free fed
    refine ⟨front, _, opens, ⟨by simp, free, rfl⟩, ?_⟩
    rw [lexeme, parameterLexemes_concat names name nonempty]
    simp
  | afterParameter start names => exact afterParameter_reached opens pending fed
  | complete e =>
    simp only [feed] at fed
    obtain ⟨n, derivation, fits⟩ := pending
    split at fed
    · rename_i opening
      cases fed
      refine ⟨front, _, opens, ⟨n, back, derivation, fits, rfl⟩, ?_⟩
      rw [opening, List.append_assoc]
    · exact close_reached opens (.primary derivation) fits fed

theorem run_reached {r s : Reader} {lexemes : List Lexeme}
    (reached : Reached room r lexemes) (tokens : List Token) (ran : run room r tokens = .ok s) :
    Reached room s (lexemes ++ tokens.map Token.lexeme) := by
  induction tokens generalizing r lexemes with
  | nil =>
    cases ran
    simpa using reached
  | cons t rest ih =>
    obtain ⟨next, fed, goesOn⟩ := run_cons_eq_ok.mp ran
    have whole := ih (feed_reached reached fed) goesOn
    simpa only [List.map_cons, List.append_assoc, List.singleton_append] using whole

theorem closeEnd_derives {stack : List Context} {front lexemes : List Lexeme} {n stop : Nat}
    {e whole : Expr} (opens : Opens room stack front) (derivation : Derives room .expr n lexemes e)
    (fits : held room stack + n ≤ room.frames) (closed : closeEnd stop stack e = .ok whole) :
    ∃ m, Derives room .expr m (front ++ lexemes) whole ∧ m ≤ room.frames := by
  induction opens generalizing lexemes n e with
  | nil =>
    cases closed
    exact ⟨n, derivation, Nat.le_trans (Nat.le_add_left n _) fits⟩
  | group outer ih => cases closed
  | body outer free nodup ih =>
    rw [held, Context.frames] at fits
    obtain ⟨m, found, bound⟩ := ih (.lambda free nodup derivation) (by omega) closed
    exact ⟨m, by simpa only [List.append_assoc] using found, bound⟩
  | operand operands outer before width inside each ih => cases closed

theorem finish_derives {r : Reader} {lexemes : List Lexeme} {stop : Nat} {e : Expr}
    (reached : Reached room r lexemes) (finished : r.finish room stop = .ok e) :
    ∃ n, Derives room .expr n lexemes e ∧ n ≤ room.frames := by
  obtain ⟨front, back, opens, pending, rfl⟩ := reached
  obtain ⟨stack, state⟩ := r
  cases state with
  | complete e =>
    obtain ⟨n, derivation, fits⟩ := pending
    exact closeEnd_derives opens (.primary derivation) fits finished
  | afterParameter pos names =>
    simp only [finish] at finished
    cases check : distinct pos names <;> (rw [check] at finished; cases finished)
  | expr | firstOperand | firstParameter | parameter => cases finished

end LambdaCalc.Grammar
