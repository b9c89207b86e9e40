import LambdaCalc.Proofs.Cursor
import LambdaCalc.Proofs.Grammar

namespace LambdaCalc

def Reader.run (room : Room) (r : Reader) (tokens : List Token) : Except ReadError Reader :=
  tokens.foldlM (feed room) r

def Reader.endOf (tokens : List Token) : Nat := (tokens.getLast?.map Token.stop).getD 0

namespace Grammar

open Reader

variable {room : Room}

theorem run_nil (r : Reader) : run room r [] = .ok r := rfl

theorem run_cons (r : Reader) (t : Token) (rest : List Token) :
    run room r (t :: rest) = (r.feed room t).bind fun s => run room s rest := rfl

theorem run_cons_eq_ok {r s : Reader} {t : Token} {rest : List Token} :
    run room r (t :: rest) = .ok s ↔ ∃ next, r.feed room t = .ok next ∧ run room next rest = .ok s := by
  rw [run_cons]
  cases r.feed room t with
  | error err => simp [Except.bind]
  | ok next => simp [Except.bind]

theorem run_append (r : Reader) (front back : List Token) :
    run room r (front ++ back) = (run room r front).bind fun s => run room s back := List.foldlM_append

theorem ofTokens_eq_run (tokens : List Token) :
    Expr.ofTokens room tokens = (run room {} tokens).bind fun r => r.finish room (endOf tokens) := by
  have stop : (⟨tokens.reverse, []⟩ : Cursor Token).endOffsetBy (fun t => some t.stop) = endOf tokens := by
    rw [Cursor.endOffsetBy, Cursor.source, List.reverse_reverse, List.append_nil, endOf]
    cases tokens.getLast? <;> rfl
  rw [Expr.ofTokens, Cursor.walk_ofList, run]
  cases tokens.foldlM (feed room) {} with
  | error e => rfl
  | ok r => exact congrArg (r.finish room) stop

/-- The reader has come to the end of `e`, which stands in `stack`: above the stack there are only
lambdas whose bodies end here too. -/
inductive Completes : Reader → List Context → Expr → Prop where
  | here {stack : List Context} {e : Expr} : Completes ⟨stack, .complete e⟩ stack e
  | body {r : Reader} {names : List String} {stack : List Context} {e : Expr}
      (inside : Completes r (.body names :: stack) e) : Completes r stack (.lambda names e)

theorem Completes.feed_eq_close {r : Reader} {stack : List Context} {e : Expr}
    (complete : Completes r stack e) (t : Token) (other : t.lexeme ≠ .delimiter '(') :
    r.feed room t = close stack e t := by
  induction complete with
  | here => simp only [feed, other, ↓reduceIte]
  | body inside ih => rw [ih, close]

theorem Completes.finish_eq_closeEnd {r : Reader} {stack : List Context} {e : Expr}
    (complete : Completes r stack e) (stop : Nat) :
    r.finish room stop = closeEnd stop stack e := by
  induction complete with
  | here => rfl
  | body inside ih => rw [ih, closeEnd]

/-- Where a reader stands after all lexemes that derive `e`. -/
def Ends (stack : List Context) (e : Expr) : Nonterminal → Reader → Prop
  | .primary, r => r = ⟨stack, .complete e⟩
  | .expr, r => Completes r stack e

/-- What comes of tokens that need `n` frames beside those of the stack: they are read, or one of them is
refused for want of room. -/
def Reads (room : Room) (stack : List Context) (n : Nat) (ends : Reader → Prop) (r : Reader)
    (tokens : List Token) : Prop :=
  if held room stack + n ≤ room.frames then ∃ s, run room r tokens = .ok s ∧ ends s
  else ∃ t ∈ tokens, run room r tokens = .error ⟨.tooDeep, some t.pos⟩

section

variable {stack : List Context} {m n : Nat} {middle ends : Reader → Prop} {r : Reader}
  {front back tokens : List Token}

theorem reads_within (fits : held room stack + n ≤ room.frames) :
    Reads room stack n ends r tokens ↔ ∃ s, run room r tokens = .ok s ∧ ends s := by
  simp only [Reads, fits, ↓reduceIte]

theorem reads_beyond (exceeds : room.frames < held room stack + n) :
    Reads room stack n ends r tokens ↔ ∃ t ∈ tokens, run room r tokens = .error ⟨.tooDeep, some t.pos⟩ := by
  simp only [Reads, Nat.not_le.mpr exceeds, ↓reduceIte]

theorem reads_of_run {s : Reader} (fits : held room stack + n ≤ room.frames) (ran : run room r tokens = .ok s)
    (ended : ends s) : Reads room stack n ends r tokens := (reads_within fits).mpr ⟨s, ran, ended⟩

theorem reads_mono (weaker : ∀ s, middle s → ends s) (read : Reads room stack n middle r tokens) :
    Reads room stack n ends r tokens := by
  by_cases fits : held room stack + n ≤ room.frames
  · obtain ⟨s, ran, ended⟩ := (reads_within fits).mp read
    exact reads_of_run fits ran (weaker s ended)
  · have exceeds := Nat.lt_of_not_le fits
    exact (reads_beyond exceeds).mpr ((reads_beyond exceeds).mp read)

theorem reads_of_run_eq {s : Reader} {others : List Token} (same : run room r others = run room s tokens)
    (within : tokens ⊆ others) (read : Reads room stack n ends s tokens) : Reads room stack n ends r others := by
  by_cases fits : held room stack + n ≤ room.frames
  · obtain ⟨last, ran, ended⟩ := (reads_within fits).mp read
    exact reads_of_run fits (same.trans ran) ended
  · have exceeds := Nat.lt_of_not_le fits
    obtain ⟨t, member, refused⟩ := (reads_beyond exceeds).mp read
    exact (reads_beyond exceeds).mpr ⟨t, within member, same.trans refused⟩

theorem reads_append (first : Reads room stack m middle r front)
    (second : held room stack + m ≤ room.frames → ∀ s, middle s → Reads room stack n ends s back) :
    Reads room stack (max m n) ends r (front ++ back) := by
  by_cases fits : held room stack + m ≤ room.frames
  · obtain ⟨s, ran, reached⟩ := (reads_within fits).mp first
    have joined : run room r (front ++ back) = run room s back := by rw [run_append, ran]; rfl
    have later := second fits s reached
    by_cases deep : held room stack + n ≤ room.frames
    · obtain ⟨last, rest, ended⟩ := (reads_within deep).mp later
      exact reads_of_run (by omega) (joined.trans rest) ended
    · obtain ⟨t, member, refused⟩ := (reads_beyond (by omega)).mp later
      exact (reads_beyond (by omega)).mpr ⟨t, List.mem_append_right _ member, joined.trans refused⟩
  · obtain ⟨t, member, refused⟩ := (reads_beyond (by omega)).mp first
    refine (reads_beyond (by omega)).mpr ⟨t, List.mem_append_left _ member, ?_⟩
    rw [run_append, refused]
    rfl

theorem reads_inside (context : Context) :
    Reads room (context :: stack) n ends r tokens ↔ Reads room stack (n + context.frames room) ends r tokens := by
  have same : held room (context :: stack) + n = held room stack + (n + context.frames room) := by
    rw [held]
    omega
  rw [Reads, Reads, same]

theorem reads_start {t : Token} {rest : List Token} (positive : 0 < n)
    (opened : held room stack < room.frames → Reads room stack n ends ⟨stack, .expr⟩ (t :: rest)) :
    Reads room stack n ends ⟨stack, .expr⟩ (t :: rest) := by
  by_cases fits : held room stack < room.frames
  · exact opened fits
  · refine (reads_beyond (by omega)).mpr ⟨t, List.mem_cons_self, ?_⟩
    have full : room.frames ≤ held room stack := by omega
    simp only [run_cons, feed, Reader.start, full, ↓reduceIte, Except.bind]

end

theorem firstRepeatedFrom_eq_none (seen names : List String) :
    firstRepeated.firstRepeatedFrom seen names = none ↔
      names.Nodup ∧ ∀ name ∈ names, name ∉ seen := by
  induction names generalizing seen with
  | nil => simp [firstRepeated.firstRepeatedFrom]
  | cons name rest ih =>
    by_cases member : name ∈ seen
    · simp [firstRepeated.firstRepeatedFrom, member]
    · simp only [firstRepeated.firstRepeatedFrom, List.contains_eq_mem, member, decide_false,
        Bool.false_eq_true, ↓reduceIte, ih, List.nodup_cons, List.mem_cons, forall_eq_or_imp,
        not_false_eq_true, true_and]
      constructor
      · rintro ⟨nodup, apart⟩
        exact ⟨⟨fun again => apart name again (.inl rfl), nodup⟩,
          fun other inRest inSeen => apart other inRest (.inr inSeen)⟩
      · rintro ⟨⟨once, nodup⟩, apart⟩
        refine ⟨nodup, fun other inRest found => ?_⟩
        rcases found with same | inSeen
        · exact once (same ▸ inRest)
        · exact apart other inRest inSeen

theorem distinct_eq_ok (start : Nat) (names : List String) :
    distinct start names = .ok () ↔ names.Nodup := by
  have repeated : firstRepeated names = none ↔ names.Nodup := by
    cases names with
    | nil => simp [firstRepeated]
    | cons name rest => simp only [firstRepeated, firstRepeatedFrom_eq_none]; simp
  rw [← repeated]
  simp only [distinct]
  cases firstRepeated names <;> simp

theorem parameters_run (names before : List String) (nonempty : names ≠ [])
    (free : ∀ name ∈ names, name ≠ keyword) (start : Nat) (stack : List Context)
    (tokens : List Token)
    (spelled : tokens.map Token.lexeme = parameterLexemes names ++ [.delimiter ':']) :
    run room ⟨stack, .parameter start before⟩ tokens =
      (distinct start (before ++ names)).map fun _ => ⟨.body (before ++ names) :: stack, .expr⟩ := by
  induction names generalizing before tokens with
  | nil => exact absurd rfl nonempty
  | cons name rest ih =>
    have named : name ≠ keyword := free name (by simp)
    cases rest with
    | nil =>
      obtain ⟨t, others, rfl, first, spelled⟩ := List.map_eq_cons_iff.mp spelled
      obtain ⟨colon, others, rfl, second, spelled⟩ := List.map_eq_cons_iff.mp spelled
      obtain rfl := List.map_eq_nil_iff.mp spelled
      simp only [run_cons, run_nil, feed, parameter, first, named, ↓reduceIte, Except.bind, second,
        Lexeme.delimiter.injEq, Char.reduceEq]
      cases distinct start (before ++ [name]) <;> rfl
    | cons other rest =>
      obtain ⟨t, others, rfl, first, spelled⟩ := List.map_eq_cons_iff.mp spelled
      obtain ⟨u, others, rfl, second, spelled⟩ := List.map_eq_cons_iff.mp spelled
      have tail := ih (before ++ [name]) (by simp) (fun p member => free p (by simp [member]))
        others spelled
      rw [List.append_assoc, List.singleton_append] at tail
      rw [← tail]
      simp only [run_cons, feed, parameter, first, named, ↓reduceIte, Except.bind, second, comma]

theorem lambda_run (names : List String) (free : ∀ name ∈ names, name ≠ keyword)
    (nodup : names.Nodup) (stack : List Context) (tokens : List Token)
    (spelled : tokens.map Token.lexeme = lambdaLexemes names) :
    Reads room stack 1 (· = ⟨.body names :: stack, .expr⟩) ⟨stack, .expr⟩ tokens := by
  obtain ⟨t, others, rfl, first, spelled⟩ := List.map_eq_cons_iff.mp spelled
  refine reads_start Nat.one_pos fun fits => reads_of_run fits ?_ rfl
  simp only [run_cons, feed, Reader.start, Nat.not_le.mpr fits, first, ↓reduceIte, Except.bind]
  cases names with
  | nil =>
    obtain ⟨u, others, rfl, second, spelled⟩ := List.map_eq_cons_iff.mp spelled
    obtain rfl := List.map_eq_nil_iff.mp spelled
    simp only [run_cons, run_nil, feed, second, ↓reduceIte, Except.bind]
  | cons name rest =>
    -- The first parameter is read like the others once the list is known not to be empty.
    have same : run room ⟨stack, .firstParameter t.pos⟩ others =
        run room ⟨stack, .parameter t.pos []⟩ others := by
      cases rest <;>
        (obtain ⟨u, others, rfl, second, -⟩ := List.map_eq_cons_iff.mp spelled
         simp only [run_cons, feed, second, reduceCtorEq, ↓reduceIte])
    rw [same, parameters_run (name :: rest) [] (by simp) free t.pos stack others spelled,
      List.nil_append, (distinct_eq_ok t.pos (name :: rest)).mpr nodup]
    rfl

def ReadsAs (room : Room) (nonterminal : Nonterminal) (n : Nat) (lexemes : List Lexeme) (e : Expr) : Prop :=
  ∀ (stack : List Context) (tokens : List Token), tokens.map Token.lexeme = lexemes →
    Reads room stack n (Ends stack e nonterminal) ⟨stack, .expr⟩ tokens

theorem enclosed_reads {n : Nat} {lexemes : List Lexeme} {e : Expr} (inside : ReadsAs room .expr n lexemes e)
    {context : Context} {stack : List Context} {tokens : List Token} {separator : Token} {next : Reader}
    (spelled : tokens.map Token.lexeme = lexemes) (other : separator.lexeme ≠ .delimiter '(')
    (closed : close (context :: stack) e separator = .ok next) :
    Reads room stack (n + context.frames room) (· = next) ⟨context :: stack, .expr⟩ (tokens ++ [separator]) := by
  have inner := (reads_inside context).mp (inside (context :: stack) tokens spelled)
  rw [← Nat.max_self (n + context.frames room)]
  refine reads_append inner fun fits r complete => reads_of_run fits ?_ rfl
  rw [run_cons, complete.feed_eq_close separator other, closed]
  rfl

theorem operands_run (operands : List Operand) (nonempty : operands ≠ [])
    (each : ∀ o ∈ operands, ReadsAs room .expr o.nesting o.lexemes o.expr)
    (operator : Expr) (before : List Expr) (stack : List Context) (tokens : List Token)
    (spelled : tokens.map Token.lexeme = operandLexemes operands ++ [.delimiter ')']) :
    Reads room stack (operandNesting room operands)
      (· = ⟨stack, .complete (.call operator (before ++ operands.map Operand.expr))⟩)
      ⟨.operand operator before :: stack, .expr⟩ tokens := by
  induction operands generalizing before tokens with
  | nil => exact absurd rfl nonempty
  | cons o rest ih =>
    have here := each o List.mem_cons_self
    cases rest with
    | nil =>
      rw [operandLexemes_singleton] at spelled
      obtain ⟨front, back, rfl, first, spelled⟩ := List.map_eq_append_iff.mp spelled
      obtain ⟨separator, back, rfl, closing, spelled⟩ := List.map_eq_cons_iff.mp spelled
      obtain rfl := List.map_eq_nil_iff.mp spelled
      rw [operandNesting_cons, operandNesting, List.map_nil, List.foldr_nil, Nat.max_zero]
      have closed : close (.operand operator before :: stack) o.expr separator =
          .ok ⟨stack, .complete (.call operator (before ++ [o.expr]))⟩ := by simp [close, closing]
      exact enclosed_reads here first (by rw [closing]; decide) closed
    | cons p rest =>
      rw [operandLexemes_cons, List.append_assoc, List.cons_append] at spelled
      obtain ⟨front, back, rfl, first, spelled⟩ := List.map_eq_append_iff.mp spelled
      obtain ⟨separator, back, rfl, between, spelled⟩ := List.map_eq_cons_iff.mp spelled
      have tail := ih (by simp) (fun q member => each q (List.mem_cons_of_mem o member))
        (before ++ [o.expr]) back spelled
      rw [List.append_assoc, List.singleton_append] at tail
      have split : front ++ separator :: back = (front ++ [separator]) ++ back := by simp
      have closed : close (.operand operator before :: stack) o.expr separator =
          .ok ⟨.operand operator (before ++ [o.expr]) :: stack, .expr⟩ := by simp [close, between, comma]
      rw [split, operandNesting_cons]
      refine reads_append (enclosed_reads here first (by rw [between]; decide) closed) ?_
      rintro - s rfl
      exact tail

theorem calls_run (operands : List Operand)
    (inside : ∀ o ∈ operands, Derives room .expr o.nesting o.lexemes o.expr)
    (each : ∀ o ∈ operands, ReadsAs room .expr o.nesting o.lexemes o.expr)
    (operator : Expr) (stack : List Context) (fits : held room stack ≤ room.frames) (tokens : List Token)
    (spelled : tokens.map Token.lexeme = operandLexemes operands ++ [.delimiter ')']) :
    Reads room stack (operandNesting room operands)
      (· = ⟨stack, .complete (.call operator (operands.map Operand.expr))⟩)
      ⟨stack, .firstOperand operator⟩ tokens := by
  cases operands with
  | nil =>
    obtain ⟨t, others, rfl, closing, spelled⟩ := List.map_eq_cons_iff.mp spelled
    obtain rfl := List.map_eq_nil_iff.mp spelled
    refine reads_of_run fits ?_ rfl
    simp only [run_cons, run_nil, feed, closing, ↓reduceIte, Except.bind, List.map_nil]
  | cons o rest =>
    -- The operand is not empty and does not look like the end of the list.
    have opens : ∃ t others, tokens = t :: others ∧ t.lexeme ≠ .delimiter ')' := by
      obtain ⟨first, inner, shape, opening⟩ := derives_head (inside o (by simp))
      have start : ∃ more, operandLexemes (o :: rest) = first :: more := by
        cases rest with
        | nil => exact ⟨inner, by rw [operandLexemes_singleton, shape]⟩
        | cons p rest => exact ⟨_, by rw [operandLexemes_cons, shape, List.cons_append]⟩
      obtain ⟨more, start⟩ := start
      rw [start, List.cons_append] at spelled
      obtain ⟨t, others, rfl, lexeme, -⟩ := List.map_eq_cons_iff.mp spelled
      exact ⟨t, others, rfl, lexeme ▸ opening⟩
    obtain ⟨t, others, rfl, opening⟩ := opens
    have entered : run room ⟨stack, .firstOperand operator⟩ (t :: others) =
        run room ⟨.operand operator [] :: stack, .expr⟩ (t :: others) := by
      simp only [run_cons, feed, opening, ↓reduceIte]
    have whole := operands_run (o :: rest) (by simp) each operator [] stack _ spelled
    exact reads_of_run_eq entered (List.Subset.refl _) whole

theorem literal_reads {text : String} {value : Number} (numeral : Numeral.read text = .ok value) :
    ReadsAs room .primary 1 [.number text] (.literal value) := by
  intro stack tokens spelled
  obtain ⟨t, others, rfl, first, spelled⟩ := List.map_eq_cons_iff.mp spelled
  obtain rfl := List.map_eq_nil_iff.mp spelled
  refine reads_start Nat.one_pos fun fits => reads_of_run fits ?_ rfl
  simp only [run_cons, run_nil, feed, Reader.start, Nat.not_le.mpr fits, first, ↓reduceIte,
    Numeral.readAt_eq_ok_iff.mpr numeral, Except.bind]

theorem name_reads {identifier : String} (free : identifier ≠ keyword) :
    ReadsAs room .primary 1 [.symbol identifier] (.name identifier) := by
  intro stack tokens spelled
  obtain ⟨t, others, rfl, first, spelled⟩ := List.map_eq_cons_iff.mp spelled
  obtain rfl := List.map_eq_nil_iff.mp spelled
  refine reads_start Nat.one_pos fun fits => reads_of_run fits ?_ rfl
  simp only [run_cons, run_nil, feed, Reader.start, Nat.not_le.mpr fits, first, free, ↓reduceIte, Except.bind]

theorem group_reads {n : Nat} {inner : List Lexeme} {e : Expr} (positive : 0 < n)
    (inside : ReadsAs room .expr n inner e) :
    ReadsAs room .primary (n + room.group) (.delimiter '(' :: inner ++ [.delimiter ')']) e := by
  intro stack tokens spelled
  obtain ⟨t, others, rfl, first, spelled⟩ := List.map_eq_cons_iff.mp spelled
  obtain ⟨middle, back, rfl, second, spelled⟩ := List.map_eq_append_iff.mp spelled
  obtain ⟨u, back, rfl, closing, spelled⟩ := List.map_eq_cons_iff.mp spelled
  obtain rfl := List.map_eq_nil_iff.mp spelled
  refine reads_start (by omega) fun fits => ?_
  have entered : Reads room stack 1 (· = ⟨.group :: stack, .expr⟩) ⟨stack, .expr⟩ [t] := by
    refine reads_of_run fits ?_ rfl
    simp only [run_cons, run_nil, feed, Reader.start, Nat.not_le.mpr fits, first, ↓reduceIte, Except.bind]
  have closed : close (.group :: stack) e u = .ok ⟨stack, .complete e⟩ := by simp only [close, closing, ↓reduceIte]
  rw [← Nat.max_eq_right (show 1 ≤ n + room.group by omega)]
  refine reads_append entered ?_
  rintro - s rfl
  exact enclosed_reads inside second (by rw [closing]; decide) closed

theorem call_reads {n : Nat} {front : List Lexeme} {operator : Expr} (operands : List Operand)
    (before : ReadsAs room .primary n front operator)
    (derived : ∀ o ∈ operands, Derives room .expr o.nesting o.lexemes o.expr)
    (inside : ∀ o ∈ operands, ReadsAs room .expr o.nesting o.lexemes o.expr) :
    ReadsAs room .primary (max n (operandNesting room operands))
      (front ++ .delimiter '(' :: operandLexemes operands ++ [.delimiter ')'])
      (.call operator (operands.map Operand.expr)) := by
  intro stack tokens spelled
  rw [List.append_assoc, List.cons_append] at spelled
  obtain ⟨head, back, rfl, operatorSpelled, spelled⟩ := List.map_eq_append_iff.mp spelled
  obtain ⟨t, back, rfl, opening, spelled⟩ := List.map_eq_cons_iff.mp spelled
  refine reads_append (before stack head operatorSpelled) ?_
  rintro fits s rfl
  have called : run room ⟨stack, .complete operator⟩ (t :: back) =
      run room ⟨stack, .firstOperand operator⟩ back := by
    simp only [run_cons, feed, opening, ↓reduceIte, Except.bind]
  have operandsRun := calls_run operands derived inside operator stack (by omega) back spelled
  exact reads_of_run_eq called (List.subset_cons_self t back) operandsRun

theorem primary_reads {n : Nat} {lexemes : List Lexeme} {e : Expr}
    (whole : ReadsAs room .primary n lexemes e) : ReadsAs room .expr n lexemes e := by
  intro stack tokens spelled
  refine reads_mono ?_ (whole stack tokens spelled)
  rintro r rfl
  exact .here

theorem lambda_reads {n : Nat} {names : List String} {inner : List Lexeme} {body : Expr}
    (positive : 0 < n) (free : ∀ name ∈ names, name ≠ keyword) (nodup : names.Nodup)
    (inside : ReadsAs room .expr n inner body) :
    ReadsAs room .expr (n + room.body) (lambdaLexemes names ++ inner) (.lambda names body) := by
  intro stack tokens spelled
  obtain ⟨head, back, rfl, before, spelled⟩ := List.map_eq_append_iff.mp spelled
  rw [← Nat.max_eq_right (show 1 ≤ n + room.body by omega)]
  refine reads_append (lambda_run names free nodup stack head before) ?_
  rintro - s rfl
  -- The body ends where the lambda does, so its reader is the one that completes the lambda.
  exact reads_mono (fun _ => Completes.body) ((reads_inside (.body names)).mp (inside _ back spelled))

/-- Lexemes that derive an expression are read to their end, or nest too deeply for the room. -/
theorem derives_run {nonterminal : Nonterminal} {n : Nat} {lexemes : List Lexeme} {e : Expr}
    (derivation : Derives room nonterminal n lexemes e) : ReadsAs room nonterminal n lexemes e := by
  induction derivation with
  | literal numeral => exact literal_reads numeral
  | name free => exact name_reads free
  | group inside ih => exact group_reads (derives_nesting_pos inside) ih
  | call operands before inside first rest => exact call_reads operands first inside rest
  | primary whole ih => exact primary_reads ih
  | lambda free nodup inside ih => exact lambda_reads (derives_nesting_pos inside) free nodup ih

end Grammar

end LambdaCalc
