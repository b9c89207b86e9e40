import LambdaCalc.Proofs.Reader.Location

namespace LambdaCalc.Numeral

open Token

/-- Digits, behind one minus sign at most. -/
structure Integral (text : List Char) (negative : Bool) (digits : List Char) : Prop where
  text_eq : text = Binary64.signText negative ++ digits
  nonempty : digits ≠ []
  isDigit : ∀ c ∈ digits, c.isDigit = true

/-- Digits before a point, behind it or both, behind one minus sign at most. -/
structure Fractional (text : List Char) (negative : Bool) (whole fraction : List Char) : Prop where
  text_eq : text = Binary64.signText negative ++ (whole ++ '.' :: fraction)
  nonempty : whole ≠ [] ∨ fraction ≠ []
  whole_isDigit : ∀ c ∈ whole, c.isDigit = true
  fraction_isDigit : ∀ c ∈ fraction, c.isDigit = true

def nearest (negative : Bool) (whole fraction : List Char) : Binary64 :=
  Decimal.toBinary64 negative ⟨Nat.ofDigitChars 10 (whole ++ fraction) 0, -(fraction.length : Int)⟩

/-- What becomes of a text at an offset. -/
inductive Verdict (position : Option Nat) (text : String) : Except ReadError Number → Prop where
  | integer {negative : Bool} {digits : List Char} (form : Integral text.toList negative digits)
      (short : digits.length ≤ Number.maxDigits) :
      Verdict position text (.ok (.int (signed negative (Nat.ofDigitChars 10 digits 0))))
  | tooManyDigits {negative : Bool} {digits : List Char} (form : Integral text.toList negative digits)
      (long : Number.maxDigits < digits.length) :
      Verdict position text (.error ⟨.numeral .tooManyDigits, position⟩)
  | float {negative : Bool} {whole fraction : List Char} (form : Fractional text.toList negative whole fraction)
      (finite : (nearest negative whole fraction).isFinite = true) :
      Verdict position text (.ok (.float (nearest negative whole fraction)))
  | outOfRange {negative : Bool} {whole fraction : List Char} (form : Fractional text.toList negative whole fraction)
      (infinite : (nearest negative whole fraction).isFinite = false) :
      Verdict position text (.error ⟨.numeral (.outOfRange text), position⟩)
  | malformed (notIntegral : ∀ negative digits, ¬ Integral text.toList negative digits)
      (notFractional : ∀ negative whole fraction, ¬ Fractional text.toList negative whole fraction) :
      Verdict position text (.error ⟨.numeral (.malformed text), position⟩)

variable {cs : List Char} {text : String}

theorem isDigit_of_digital {c : Char} (numeral : isNumeralChar c = true) (digital : Text.isDigit c = true) :
    c.isDigit = true := by
  simp only [isNumeralChar, Bool.or_eq_true, beq_iff_eq] at numeral
  rcases numeral with (digit | rfl) | rfl
  · exact digit
  · exact absurd digital (by decide)
  · exact absurd digital (by decide)

theorem digital_of_digitValue? {c : Char} {d : Nat} (value : Text.digitValue? c = some d) :
    Text.isDigit c = true := by
  rw [Text.isDigit, Text.isDecimalDigit, value, Option.isSome_some, Bool.true_or]

theorem isDigit_of_digits? {ds : List Nat} (numeral : ∀ c ∈ cs, isNumeralChar c = true)
    (spelled : digits? cs = some ds) : cs ≠ [] ∧ ∀ c ∈ cs, c.isDigit = true := by
  fun_induction digits? cs generalizing ds with
  | case1 => cases spelled
  | case2 c =>
    obtain ⟨d, value, -⟩ := Option.map_eq_some_iff.mp spelled
    have first := isDigit_of_digital (numeral c List.mem_cons_self) (digital_of_digitValue? value)
    exact ⟨List.cons_ne_nil _ _, List.forall_mem_cons.mpr ⟨first, by simp⟩⟩
  | case3 c rest =>
    -- No underscore is a numeral character.
    have underscore := numeral '_' (by simp)
    cases underscore
  | case4 c rest single underscored ih =>
    obtain ⟨d, value, more⟩ := Option.bind_eq_some_iff.mp spelled
    obtain ⟨es, others, -⟩ := Option.map_eq_some_iff.mp more
    have first := isDigit_of_digital (numeral c List.mem_cons_self) (digital_of_digitValue? value)
    have behind := (ih (fun d member => numeral d (List.mem_cons_of_mem c member)) others).2
    exact ⟨List.cons_ne_nil _ _, List.forall_mem_cons.mpr ⟨first, behind⟩⟩

theorem isDigit_of_optionalDigits? {ds : List Nat} (numeral : ∀ c ∈ cs, isNumeralChar c = true)
    (spelled : optionalDigits? cs = some ds) : ∀ c ∈ cs, c.isDigit = true := by
  cases cs with
  | nil => simp
  | cons c cs => exact (isDigit_of_digits? numeral spelled).2

theorem splitSign_numeral (numeral : ∀ c ∈ cs, isNumeralChar c = true) :
    cs = Binary64.signText (splitSign cs).1 ++ (splitSign cs).2 := by
  unfold splitSign
  split
  · rfl
  · rename_i rest
    have plus := numeral '+' List.mem_cons_self
    cases plus
  · rfl

theorem integral_of_int? {n : Int} (numeral : ∀ c ∈ cs, isNumeralChar c = true) (value : int? cs = some n) :
    ∃ negative digits, Integral cs negative digits := by
  have signed := splitSign_numeral numeral
  rw [int?, trim_numeral numeral] at value
  generalize splitSign cs = parts at signed value
  obtain ⟨negative, body⟩ := parts
  obtain ⟨ds, spelled, -⟩ := Option.bind_eq_some_iff.mp value
  have inside : ∀ c ∈ body, isNumeralChar c = true := by
    intro c member
    apply numeral
    rw [signed]
    exact List.mem_append_right _ member
  obtain ⟨nonempty, digits⟩ := isDigit_of_digits? inside spelled
  exact ⟨negative, body, signed, nonempty, digits⟩

theorem integral_of_looksDigital (numeral : ∀ c ∈ cs, isNumeralChar c = true) (digital : looksDigital cs = true) :
    ∃ negative digits, Integral cs negative digits := by
  have form : ∀ negative body, cs = Binary64.signText negative ++ body →
      (!body.isEmpty && body.all Text.isDigit) = true → Integral cs negative body := by
    intro negative body signed digits
    rw [Bool.and_eq_true, Bool.not_eq_true', List.isEmpty_eq_false_iff, List.all_eq_true] at digits
    refine ⟨signed, digits.1, fun c member => isDigit_of_digital (numeral c ?_) (digits.2 c member)⟩
    rw [signed]
    exact List.mem_append_right _ member
  unfold looksDigital at digital
  split at digital
  · exact ⟨true, _, form true _ rfl digital⟩
  · exact ⟨false, _, form false _ rfl digital⟩

theorem parts_of_mantissa? {parts : List Nat × List Nat} (numeral : ∀ c ∈ cs, isNumeralChar c = true)
    (point : '.' ∈ cs) (spelled : mantissa? cs = some parts) :
    ∃ whole fraction, cs = whole ++ '.' :: fraction ∧ (whole ≠ [] ∨ fraction ≠ []) ∧
      (∀ c ∈ whole, c.isDigit = true) ∧ ∀ c ∈ fraction, c.isDigit = true := by
  have split := @List.takeWhile_append_dropWhile _ (· != '.') cs
  have stop := List.head?_dropWhile_not (· != '.') cs
  have before : '.' ∉ cs.takeWhile (· != '.') := fun member => by
    have other := List.all_eq_true.mp List.all_takeWhile '.' member
    cases other
  unfold mantissa? at spelled
  generalize cs.takeWhile (· != '.') = whole at split before spelled
  generalize cs.dropWhile (· != '.') = behind at split stop spelled
  cases behind with
  | nil =>
    rw [List.append_nil] at split
    exact absurd (split ▸ point) before
  | cons d fraction =>
    obtain rfl : d = '.' := by simpa using stop
    subst split
    obtain ⟨w, wholeSpelled, more⟩ := Option.bind_eq_some_iff.mp spelled
    obtain ⟨f, fractionSpelled, filled⟩ := Option.bind_eq_some_iff.mp more
    have wholeDigits := isDigit_of_optionalDigits? (fun c member => numeral c (by simp [member])) wholeSpelled
    have fractionDigits := isDigit_of_optionalDigits? (fun c member => numeral c (by simp [member])) fractionSpelled
    refine ⟨whole, fraction, rfl, ?_, wholeDigits, fractionDigits⟩
    by_cases none : whole = []
    · right
      rintro rfl
      subst none
      cases wholeSpelled
      cases fractionSpelled
      cases filled
    · exact .inl none

theorem fractional_of_float? {x : Binary64} (numeral : ∀ c ∈ cs, isNumeralChar c = true) (point : '.' ∈ cs)
    (value : float? cs = some x) : ∃ negative whole fraction, Fractional cs negative whole fraction := by
  have signed := splitSign_numeral numeral
  rw [float?, trim_numeral numeral] at value
  generalize splitSign cs = parts at signed value
  obtain ⟨negative, body⟩ := parts
  subst signed
  have inside : ∀ c ∈ body, isNumeralChar c = true := fun c member => numeral c (List.mem_append_right _ member)
  have pointInside : '.' ∈ body := by
    rcases List.mem_append.mp point with sign | member
    · cases negative <;> simp [Binary64.signText] at sign
    · exact member
  change unsigned? negative body = some x at value
  rw [unsigned?_of_mem negative pointInside rfl, decimal?_numeral inside, Option.map_map] at value
  obtain ⟨parts, spelled, -⟩ := Option.map_eq_some_iff.mp value
  obtain ⟨whole, fraction, split, nonempty, wholeDigits, fractionDigits⟩ := parts_of_mantissa? inside pointInside spelled
  exact ⟨negative, whole, fraction, by rw [split], nonempty, wholeDigits, fractionDigits⟩

theorem looksDigital_of_integral {negative : Bool} {digits : List Char} (form : Integral cs negative digits) :
    looksDigital cs = true := by
  have digital : (!digits.isEmpty && digits.all Text.isDigit) = true := by
    rw [Bool.and_eq_true, Bool.not_eq_true', List.isEmpty_eq_false_iff, List.all_eq_true]
    exact ⟨form.nonempty, fun c member => digital_of_digitValue? (digitValue?_eq (form.isDigit c member))⟩
  rw [form.text_eq]
  cases negative with
  | true => exact digital
  | false =>
    unfold looksDigital
    split
    · rename_i rest minus
      have first := form.isDigit '-' (by
        rw [show digits = '-' :: rest from minus]
        exact List.mem_cons_self)
      cases first
    · exact digital

theorem not_mem_of_integral {negative : Bool} {digits : List Char} (form : Integral cs negative digits) :
    '.' ∉ cs := by
  rw [form.text_eq]
  exact point_not_mem_signed form.isDigit

theorem read_of_integral {negative : Bool} {digits : List Char} (form : Integral text.toList negative digits) :
    read text = if Number.maxDigits < digits.length then .error .tooManyDigits
      else .ok (.int (signed negative (Nat.ofDigitChars 10 digits 0))) := by
  have pointless : text.toList.contains '.' = false := by
    rw [← Bool.not_eq_true, List.contains_iff_mem]
    exact not_mem_of_integral form
  have value := int?_digits negative form.nonempty form.isDigit
  rw [← form.text_eq] at value
  by_cases long : Number.maxDigits < digits.length
  · rw [if_pos long] at value ⊢
    simp only [read, pointless, Bool.false_eq_true, ↓reduceIte, value, looksDigital_of_integral form]
  · rw [if_neg long] at value ⊢
    simp only [read, pointless, Bool.false_eq_true, ↓reduceIte, value]

theorem mem_of_fractional {negative : Bool} {whole fraction : List Char}
    (form : Fractional cs negative whole fraction) : '.' ∈ cs := by
  rw [form.text_eq]
  simp

theorem read_of_fractional {negative : Bool} {whole fraction : List Char}
    (form : Fractional text.toList negative whole fraction) :
    read text = if (nearest negative whole fraction).isFinite then .ok (.float (nearest negative whole fraction))
      else .error (.outOfRange text) := by
  have point : text.toList.contains '.' = true := List.contains_iff_mem.mpr (mem_of_fractional form)
  have value := float?_point negative form.nonempty form.whole_isDigit form.fraction_isDigit
  rw [← form.text_eq] at value
  simp only [read, point, ↓reduceIte, value]
  rfl

theorem read_of_malformed (numeral : ∀ c ∈ text.toList, isNumeralChar c = true)
    (notIntegral : ∀ negative digits, ¬ Integral text.toList negative digits)
    (notFractional : ∀ negative whole fraction, ¬ Fractional text.toList negative whole fraction) :
    read text = .error (.malformed text) := by
  unfold read
  dsimp only
  split
  · rename_i point
    split
    · rfl
    · rename_i x value
      obtain ⟨negative, whole, fraction, form⟩ :=
        fractional_of_float? numeral (List.contains_iff_mem.mp point) value
      exact absurd form (notFractional negative whole fraction)
  · split
    · rename_i n value
      obtain ⟨negative, digits, form⟩ := integral_of_int? numeral value
      exact absurd form (notIntegral negative digits)
    · split
      · rename_i digital
        obtain ⟨negative, digits, form⟩ := integral_of_looksDigital numeral digital
        exact absurd form (notIntegral negative digits)
      · rfl

theorem readAt_of_verdict {position : Option Nat} {result : Except ReadError Number}
    (numeral : ∀ c ∈ text.toList, isNumeralChar c = true) (verdict : Verdict position text result) :
    readAt position text = result := by
  cases verdict with
  | integer form short =>
    rw [readAt_eq_ok_iff, read_of_integral form, if_neg (Nat.not_lt.mpr short)]
  | tooManyDigits form long =>
    rw [readAt_eq_error_iff, read_of_integral form, if_pos long]
    exact ⟨_, rfl, rfl⟩
  | float form finite =>
    rw [readAt_eq_ok_iff, read_of_fractional form, if_pos finite]
  | outOfRange form infinite =>
    rw [readAt_eq_error_iff, read_of_fractional form, if_neg (Bool.eq_false_iff.mp infinite)]
    exact ⟨_, rfl, rfl⟩
  | malformed notIntegral notFractional =>
    rw [readAt_eq_error_iff, read_of_malformed numeral notIntegral notFractional]
    exact ⟨_, rfl, rfl⟩

theorem exists_verdict (position : Option Nat) (text : String) : ∃ result, Verdict position text result := by
  by_cases integral : ∃ negative digits, Integral text.toList negative digits
  · obtain ⟨negative, digits, form⟩ := integral
    rcases Nat.lt_or_ge Number.maxDigits digits.length with long | short
    · exact ⟨_, .tooManyDigits form long⟩
    · exact ⟨_, .integer form short⟩
  · by_cases fractional : ∃ negative whole fraction, Fractional text.toList negative whole fraction
    · obtain ⟨negative, whole, fraction, form⟩ := fractional
      cases finite : (nearest negative whole fraction).isFinite with
      | true => exact ⟨_, .float form finite⟩
      | false => exact ⟨_, .outOfRange form finite⟩
    · refine ⟨_, .malformed (fun negative digits form => ?_) (fun negative whole fraction form => ?_)⟩
      · exact integral ⟨negative, digits, form⟩
      · exact fractional ⟨negative, whole, fraction, form⟩

theorem reason_ne_of_refuses {room : Room} {source : String} {tokens : List Token} {err : ReadError}
    (scanned : scan source = .ok tokens) (refuses : Reader.Refuses room tokens err) (e : Error) :
    err.reason ≠ .numeral e := by
  intro reason
  cases refuses with
  | tooDeep | tooDeepEnd => cases reason
  | numeral member lexeme refused =>
    obtain ⟨n, value⟩ := read_of_scan scanned member lexeme
    rw [value] at refused
    cases refused
  | repeated split ran listed clash =>
    obtain ⟨name, -, rfl⟩ := Reader.reason_of_distinct clash
    cases reason
  | blamed split ran refused blames => cases blames <;> cases reason
  | ended ran refused out => cases out <;> cases reason

/-- A run of numeral characters gets exactly the verdict that its form, its length and its value ask for, with the
offset that was given. A numeral that was scanned is read again when its token is, and so no text is refused for
a numeral once it is scanned. -/
theorem readAt_iff_verdict :
    (∀ (position : Option Nat) (text : String), (∀ c ∈ text.toList, isNumeralChar c = true) →
      ∀ result, readAt position text = result ↔ Verdict position text result) ∧
    (∀ text : String,
      ReadError.Reason.message (.numeral .tooManyDigits) = "numeral has more than 4300 digits" ∧
      ReadError.Reason.message (.numeral (.malformed text)) = "'" ++ text ++ "' is not a numeral" ∧
      ReadError.Reason.message (.numeral (.outOfRange text)) =
        "numeral '" ++ String.ofList (text.toList.take 20) ++ "...' is out of range") ∧
    ∀ (source : String) (tokens : List Token), scan source = .ok tokens →
      (∀ t ∈ tokens, ∀ text, t.lexeme = .number text →
        ∃ n, readAt (some t.pos) text = .ok n ∧
          ∀ room stack, Reader.held room stack < room.frames →
            Reader.start room stack t = .ok ⟨stack, .complete (.literal n)⟩) ∧
      ∀ room e position, Expr.read room source ≠ .error ⟨.numeral e, position⟩ := by
  refine ⟨?_, ?_, ?_⟩
  · intro position text numeral result
    refine ⟨fun value => ?_, readAt_of_verdict numeral⟩
    obtain ⟨other, verdict⟩ := exists_verdict position text
    rw [readAt_of_verdict numeral verdict] at value
    rwa [← value]
  · intro text
    exact ⟨rfl, rfl, rfl⟩
  · intro source tokens scanned
    constructor
    · intro t member text lexeme
      obtain ⟨n, value⟩ := read_of_scan scanned member lexeme
      have again : readAt (some t.pos) text = .ok n := readAt_eq_ok_iff.mpr value
      refine ⟨n, again, fun room stack fits => ?_⟩
      simp only [Reader.start, Nat.not_le.mpr fits, ↓reduceIte, lexeme, again]
    · intro room e position failed
      have refuses := Reader.refuses_of_ofTokens (Reader.ofTokens_of_read scanned failed)
      exact reason_ne_of_refuses scanned refuses e rfl

/-- Zeros count as digits wherever they stand, so the run of zeros is too long and not a zero. -/
theorem readAt_iff_verdict_zeros :
    readAt (some 4) (String.ofList (List.replicate 4301 '0')) = .error ⟨.numeral .tooManyDigits, some 4⟩ ∧
      Verdict none "-007" (.ok (.int (-7))) ∧
      Verdict (some 4) "1.2.3" (.error ⟨.numeral (.malformed "1.2.3"), some 4⟩) ∧
      ∀ room e position, Expr.read room "f(-007, " ≠ .error ⟨.numeral e, position⟩ := by
  have zeros : ∀ c ∈ (String.ofList (List.replicate 4301 '0')).toList, c.isDigit = true := by
    rw [String.toList_ofList]
    exact fun c member => replicate_zero_isDigit member
  have unsigned : ∀ digits, digits ≠ [] → (∀ c ∈ digits, c.isDigit = true) → Integral digits false digits :=
    fun digits nonempty isDigit => ⟨rfl, nonempty, isDigit⟩
  have nonempty : (String.ofList (List.replicate 4301 '0')).toList ≠ [] := by
    rw [String.toList_ofList, List.replicate_succ]
    exact List.cons_ne_nil _ _
  have long : Number.maxDigits < (String.ofList (List.replicate 4301 '0')).toList.length := by
    rw [String.toList_ofList, List.length_replicate]
    decide
  have scanned : scan "f(-007, " = .ok
      [⟨.symbol "f", 0⟩, ⟨.delimiter '(', 1⟩, ⟨.number "-007", 2⟩, ⟨.delimiter ',', 6⟩] := rfl
  obtain ⟨decided, -, again⟩ := readAt_iff_verdict
  refine ⟨?_, ?_, ?_, (again _ _ scanned).2⟩
  · apply (decided _ _ (fun c member => isNumeralChar_of_isDigit (zeros c member)) _).mpr
    exact .tooManyDigits (unsigned _ nonempty zeros) long
  · exact (decided _ _ (List.all_eq_true.mp rfl) _).mp rfl
  · exact (decided _ _ (List.all_eq_true.mp rfl) _).mp rfl

end LambdaCalc.Numeral
