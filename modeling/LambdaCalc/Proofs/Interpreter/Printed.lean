import LambdaCalc.Proofs.Interpreter.Range

namespace LambdaCalc

namespace Number

theorem bind_eq_ok {α β : Type} {x : Except Fault α} {f : α → Except Fault β} {b : β}
    (ran : x.bind f = .ok b) : ∃ a, x = .ok a ∧ f a = .ok b := by
  cases x with
  | error e => cases ran
  | ok a => exact ⟨a, rfl, ran⟩

theorem isPlain_combine {onInt : Int → Int → Except Fault Number}
    {onFloat : Binary64 → Binary64 → Except Fault Number} {a b n : Number}
    (ints : ∀ j k m, onInt j k = .ok m → m.isPlain = true)
    (floats : ∀ x y m, onFloat x y = .ok m → m.isPlain = true)
    (answer : combine onInt onFloat a b = .ok n) : n.isPlain = true := by
  unfold combine at answer
  split at answer
  · exact ints _ _ n answer
  · obtain ⟨x, -, rest⟩ := bind_eq_ok answer
    obtain ⟨y, -, last⟩ := bind_eq_ok rest
    exact floats x y n last

theorem isPlain_of_ok {a m : Number} (plain : a.isPlain = true)
    (answer : Except.ok a = (.ok m : Except Fault Number)) : m.isPlain = true := by
  cases answer
  exact plain

theorem isPlain_arithmetic {onInt : Int → Int → Int} {onFloat : Binary64 → Binary64 → Binary64}
    {a b n : Number} (answer : combine (fun j k => .ok (int (onInt j k)))
      (fun x y => .ok (float (onFloat x y))) a b = .ok n) : n.isPlain = true :=
  isPlain_combine (fun _ _ _ => isPlain_of_ok rfl) (fun _ _ _ => isPlain_of_ok rfl) answer

theorem eq_ok_of_guard {zero : Bool} {f : Fault} {result : Except Fault Number} {m : Number}
    (answer : (if zero then .error f else result) = .ok m) : result = .ok m := by
  cases zero with
  | true => cases answer
  | false => exact answer

theorem isPlain_intQuotient {j k : Int} {m : Number} (answer : intQuotient j k = .ok m) :
    m.isPlain = true := by
  simp only [intQuotient] at answer
  split at answer
  · exact isPlain_of_ok rfl answer
  · cases answer

theorem isPlain_trueDiv {a b n : Number} (answer : trueDiv a b = .ok n) : n.isPlain = true :=
  isPlain_combine (fun _ _ _ => isPlain_intQuotient) (fun _ _ _ => isPlain_of_ok rfl)
    (eq_ok_of_guard answer)

theorem isPlain_toFloat {a n : Number} (answer : a.toFloat.map float = .ok n) : n.isPlain = true := by
  cases converted : a.toFloat with
  | error e =>
    rw [converted] at answer
    cases answer
  | ok x =>
    rw [converted] at answer
    exact isPlain_of_ok rfl answer

theorem isPlain_showOperands {a b m : Number} {result : Except Fault Binary64}
    (answer : showOperands a b result = .ok m) : m.isPlain = true := by
  unfold showOperands at answer
  split at answer
  · exact isPlain_of_ok rfl answer
  · cases answer
  · cases answer

theorem isPlain_pow {a b m : Number} (answer : pow a b = .ok m) : m.isPlain = true := by
  have asFloats : (a.toFloat.bind fun x => b.toFloat.bind fun y => showOperands a b (floatPower x y)) =
      .ok m → m.isPlain = true := by
    intro powered
    obtain ⟨x, -, rest⟩ := bind_eq_ok powered
    obtain ⟨y, -, last⟩ := bind_eq_ok rest
    exact isPlain_showOperands last
  simp only [pow] at answer
  split at answer
  · split at answer
    · exact isPlain_of_ok rfl answer
    · exact asFloats answer
  · exact asFloats answer

theorem isPlain_truncate {a m : Number} (answer : truncate a = .ok m) : m.isPlain = true := by
  unfold truncate at answer
  split at answer
  · split at answer
    · exact isPlain_of_ok rfl answer
    · cases answer
  · exact isPlain_of_ok rfl answer

theorem isPlain_abs (a : Number) : a.abs.isPlain = true := by
  cases a <;> rfl

theorem foldl_choice_mem (better : Number → Number → Bool) (first : Number) (rest : List Number) :
    rest.foldl (fun best n => if better n best then n else best) first ∈ first :: rest := by
  induction rest generalizing first with
  | nil => exact List.mem_cons_self
  | cons n rest ih =>
    rw [List.foldl_cons]
    have chosen := ih (if better n first then n else first)
    rcases List.mem_cons.mp chosen with here | later
    · rw [here]
      split
      · exact List.mem_cons_of_mem _ List.mem_cons_self
      · exact List.mem_cons_self
    · exact List.mem_cons_of_mem _ (List.mem_cons_of_mem _ later)

end Number

namespace Host

abbrev KeepsNumerals (host : Host) : Prop := host.Keeps fun n => n.hasNumeral = true

theorem eq_ok_of_ofFunction {f : List Number → Except Fault Number} {numbers : List Number} {n : Number}
    (answer : (ofFunction f numbers).result = .ok (.number n)) : f numbers = .ok n := by
  simp only [ofFunction] at answer
  cases result : f numbers with
  | error e =>
    rw [result] at answer
    cases answer
  | ok m =>
    rw [result] at answer
    cases answer
    rfl

theorem unary_keeps (name : String) {f : Number → Except Fault Number}
    (plain : ∀ a n, f a = .ok n → n.isPlain = true) : (unary name f).KeepsNumerals := by
  intro numbers numerals n answer inside
  have result := eq_ok_of_ofFunction answer
  split at result
  · exact Number.hasNumeral_of_inRange inside (plain _ n result)
  · cases result

theorem binary_keeps (name : String) {f : Number → Number → Except Fault Number}
    (plain : ∀ a b n, f a b = .ok n → n.isPlain = true) : (binary name f).KeepsNumerals := by
  intro numbers numerals n answer inside
  have result := eq_ok_of_ofFunction answer
  split at result
  · exact Number.hasNumeral_of_inRange inside (plain _ _ n result)
  · cases result

theorem choice_keeps (name : String) {f : Number → List Number → Number}
    (chooses : ∀ first rest, f first rest ∈ first :: rest) : (choice name f).KeepsNumerals := by
  intro numbers numerals n answer inside
  have result := eq_ok_of_ofFunction answer
  split at result
  · cases result
  · cases result
    exact numerals _ (chooses _ _)

theorem primitives_keep : ∀ entry ∈ primitives, entry.2.KeepsNumerals := by
  simp only [primitives, List.forall_mem_cons, List.not_mem_nil, false_implies, implies_true, and_true]
  -- In the order of the table.
  exact ⟨unary_keeps _ fun a n => Number.isPlain_of_ok a.isPlain_abs,
    binary_keeps _ fun _ _ _ => Number.isPlain_arithmetic,
    unary_keeps _ fun _ _ => Number.isPlain_toFloat,
    binary_keeps _ fun _ _ _ answer => Number.isPlain_arithmetic (Number.eq_ok_of_guard answer),
    unary_keeps _ fun _ _ => Number.isPlain_truncate,
    choice_keeps _ (Number.foldl_choice_mem fun n best => best.lt n),
    choice_keeps _ (Number.foldl_choice_mem fun n best => n.lt best),
    binary_keeps _ fun _ _ _ answer => Number.isPlain_arithmetic (Number.eq_ok_of_guard answer),
    binary_keeps _ fun _ _ _ => Number.isPlain_arithmetic,
    binary_keeps _ fun _ _ _ => Number.isPlain_pow,
    binary_keeps _ fun _ _ _ => Number.isPlain_arithmetic,
    binary_keeps _ fun _ _ _ => Number.isPlain_trueDiv⟩

end Host

variable {room : Room} {n : Number}

theorem Token.scan_text (numeral : n.hasNumeral = true) :
    ∃ t, Token.scan n.text = .ok [t] ∧ t.lexeme = .number n.text := by
  obtain ⟨tokens, scanned, spelled⟩ := Scanner.scan_of_spells (Scanner.spells_number numeral)
  obtain ⟨t, rfl, lexeme⟩ := List.map_eq_singleton_iff.mp spelled
  exact ⟨t, scanned, lexeme⟩

theorem Expr.read_text (ample : 0 < room.frames) (numeral : n.hasNumeral = true) :
    Expr.read room n.text = .ok (some (.literal n)) := by
  obtain ⟨t, scanned, lexeme⟩ := Token.scan_text numeral
  have derivation : Grammar.Derives room .expr 1 ([t].map Token.lexeme) (.literal n) := by
    rw [List.map_singleton, lexeme]
    exact .primary (.literal (Number.read_text numeral))
  exact (Grammar.read_eq_some_iff scanned).mpr (Grammar.ofTokens_of_derives derivation ample)

theorem Expr.read_symbol {s : String} (ample : 0 < room.frames) (formed : (Expr.name s).wellFormed = true) :
    Expr.read room s = .ok (some (.name s)) := by
  have fits : (Expr.name s).nesting room ≤ room.frames := by rwa [nesting]
  have read := read_source_of_nesting formed fits
  rwa [source] at read

theorem Expr.read_text_bool (ample : 0 < room.frames) (b : Bool) :
    Expr.read room (Number.bool b).text = .ok (some (.name (Number.bool b).text)) := by
  cases b with
  | false => exact read_symbol ample rfl
  | true => exact read_symbol ample rfl

theorem Number.read_text_iff (ample : 0 < room.frames) (inside : n.inRange = true) :
    ((∃ t, Token.scan n.text = .ok [t] ∧ t.lexeme = .number n.text) ∧
      Expr.read room n.text = .ok (some (.literal n))) ↔ n.isPlain = true := by
  constructor
  · rintro ⟨-, literal⟩
    cases n with
    | int k => rfl
    | float x => rfl
    | bool b =>
      rw [Expr.read_text_bool ample] at literal
      cases literal
  · intro plain
    have numeral := Number.hasNumeral_of_inRange inside plain
    exact ⟨Token.scan_text numeral, Expr.read_text ample numeral⟩

/-- Whatever a host function answers, only a number in range is accepted, and its text can be written. The text is
a numeral that is read back as the literal of the number, except when the number is a truth value: then it is
read as a name. -/
theorem applyPrimitive_readable (room : Room) (ample : 0 < room.frames) (name : String) (host : Host)
    (args : List Value) (value : Value) (w v : World)
    (accepted : applyPrimitive name host args w = (.ok value, v)) :
    ∃ n, value = .number n ∧ n.inRange = true ∧ value.text? = .ok n.text ∧
      (((∃ t, Token.scan n.text = .ok [t] ∧ t.lexeme = .number n.text) ∧
        Expr.read room n.text = .ok (some (.literal n))) ↔ n.isPlain = true) ∧
      (n.isPlain = false → Expr.read room n.text = .ok (some (.name n.text))) := by
  obtain ⟨numbers, n, -, -, inside, rfl⟩ := applyPrimitive_eq_ok accepted
  have written : n.text? = .ok n.text := Number.text?_of_isBounded (Number.isBounded_of_inRange inside)
  refine ⟨n, rfl, inside, written, Number.read_text_iff ample inside, ?_⟩
  intro truth
  cases n with
  | int k => cases truth
  | float x => cases truth
  | bool b => exact Expr.read_text_bool ample b

/-- The sign of a zero is accepted, written and read. -/
theorem applyPrimitive_readable_zero :
    let zero := Number.float (.zero true)
    applyPrimitive "least" (Host.constant zero) [.number (.int 7)] {} = (.ok (.number zero), {}) ∧
      zero.isPlain = true ∧ zero.text = "-0.0" ∧ Expr.read Stack.usual.reading "-0.0" = .ok (some (.literal zero)) := by
  intro zero
  have accepted : applyPrimitive "least" (Host.constant zero) [.number (.int 7)] {} = (.ok (.number zero), {}) := rfl
  have text : zero.text = "-0.0" := rfl
  obtain ⟨n, same, -, -, readable, -⟩ := applyPrimitive_readable Stack.usual.reading (by decide) _ _ _ _ _ _ accepted
  cases same
  have literal := (readable.mpr rfl).2
  rw [text] at literal
  exact ⟨accepted, rfl, text, literal⟩

/-- A host function that answers a truth value. The value is printed as a name that nothing binds. -/
theorem applyPrimitive_truth_value :
    let i := Interpreter.ofTable .usual [("true", Host.constant (.bool true))] 200
    applyPrimitive "true" (Host.constant (.bool true)) [] {} = (.ok (.number (.bool true)), {}) ∧
      (Value.number (.bool true)).text? = .ok "True" ∧ Expr.read Stack.usual.reading "True" = .ok (some (.name "True")) ∧
      (i.eval "true()").1 = .ok (some (.number (.bool true))) ∧
      (i.eval "True").1 = .error (.eval (.unbound "True")) :=
  ⟨rfl, rfl, rfl, rfl, rfl⟩

namespace Interpreter

variable {i : Interpreter}

theorem eval_numeral (ample : 0 < i.stack.reading.frames) (levels : 0 < i.stack.levels)
    (numeral : n.hasNumeral = true) (positive : 1 ≤ i.limit) : (i.eval n.text).1 = .ok (some (.number n)) := by
  obtain ⟨rest, below⟩ : ∃ rest, levelsFor i.stack.levels 0 i.limit = rest + 1 := by
    have some : 0 < levelsFor i.stack.levels 0 i.limit := by
      simp only [levelsFor]
      omega
    exact ⟨levelsFor i.stack.levels 0 i.limit - 1, by omega⟩
  rw [i.eval_of_read (Expr.read_text ample numeral), start, below]
  rfl

theorem hasNumeral_of_eval {stack : Stack} {limit : Int} {source : String}
    (yields : ((default stack limit).eval source).1 = .ok (some (.number n))) : n.hasNumeral = true := by
  obtain ⟨e, v, read, outcome⟩ := eval_eq_ok yields
  have reached : (default stack limit).Reaches source ((default stack limit).start e) := ⟨e, read, .refl⟩
  have invariant := reaches_satisfies Host.primitives_keep (fun _ numeral => numeral) reached
  cases invariant.outcome outcome with
  | number numeral => exact numeral

theorem ample_of_eval {source : String} {value : Value} (yields : (i.eval source).1 = .ok (some value)) :
    0 < i.stack.reading.frames ∧ 0 < i.stack.levels := by
  obtain ⟨e, v, read, outcome⟩ := eval_eq_ok yields
  obtain ⟨tokens, n, -, derivation, fits⟩ := Grammar.derives_of_read read
  refine ⟨Nat.lt_of_lt_of_le (Grammar.derives_nesting_pos derivation) fits, ?_⟩
  rcases Nat.eq_zero_or_pos i.stack.levels with none | some
  · simp only [start, Moment.outcome, none, levelsFor, Nat.min_zero] at outcome
    cases outcome
  · exact some

/-- The text of a number that evaluation over the default primitives comes to is a text for that
number: it is one token, a numeral, which reads as the literal of the number and is evaluated to it
below any limit. -/
theorem eval_text (stack : Stack) (limit : Int) (source : String) (n : Number)
    (yields : ((default stack limit).eval source).1 = .ok (some (.number n))) :
    (Value.number n).text? = .ok n.text ∧
    (∃ t, Token.scan n.text = .ok [t] ∧ t.lexeme = .number n.text) ∧
    Expr.read stack.reading n.text = .ok (some (.literal n)) ∧
    ∀ other : Int, 1 ≤ other → ((default stack other).eval n.text).1 = .ok (some (.number n)) := by
  have numeral := hasNumeral_of_eval yields
  obtain ⟨ample, levels⟩ := ample_of_eval yields
  refine ⟨?_, Token.scan_text numeral, Expr.read_text ample numeral, ?_⟩
  · exact Number.text?_of_isBounded (Number.isBounded_of_hasNumeral numeral)
  · exact fun other positive => eval_numeral ample levels numeral positive

/-- The sign is part of the numeral, so a negative number comes back without a call, in one level. -/
theorem eval_text_negative :
    ((default .usual 5).eval "(lambda f: f(f(-3)))(lambda x: mul(x, 7))").1 =
        .ok (some (.number (.int (-147)))) ∧
      Expr.read Stack.usual.reading "-147" = .ok (some (.literal (.int (-147)))) ∧
      ((default .usual 1).eval "-147").1 = .ok (some (.number (.int (-147)))) := by
  have read : Expr.read Stack.usual.reading "(lambda f: f(f(-3)))(lambda x: mul(x, 7))" = .ok (some (.call
      (.lambda ["f"] (.call (.name "f") [.call (.name "f") [.literal (.int (-3))]]))
      [.lambda ["x"] (.call (.name "mul") [.name "x", .literal (.int 7)])])) := rfl
  have yields : ((default .usual 5).eval "(lambda f: f(f(-3)))(lambda x: mul(x, 7))").1 =
      .ok (some (.number (.int (-147)))) := by
    rw [(default .usual 5).eval_of_read read]
    rfl
  have text : (Number.int (-147)).text = "-147" := rfl
  obtain ⟨-, -, literal, again⟩ := eval_text .usual 5 _ (.int (-147)) yields
  rw [text] at literal again
  exact ⟨yields, literal, again 1 (by decide)⟩

end Interpreter

end LambdaCalc
