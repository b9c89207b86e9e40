import LambdaCalc.Numeral
import LambdaCalc.Token.Scanner
import LambdaCalc.Proofs.Decimal.Shortest

namespace LambdaCalc

attribute [local instance (high)] instPowNat

namespace Token

theorem toNat_of_isDigit {c : Char} (digit : c.isDigit = true) : 48 ≤ c.toNat ∧ c.toNat ≤ 57 := by
  simp only [Char.isDigit, Bool.and_eq_true, decide_eq_true_eq, ge_iff_le, UInt32.le_iff_toNat_le] at digit
  exact digit

theorem toNat_of_isNumeralChar {c : Char} (numeral : isNumeralChar c = true) :
    45 ≤ c.toNat ∧ c.toNat ≤ 57 := by
  simp only [isNumeralChar, Bool.or_eq_true, beq_iff_eq] at numeral
  rcases numeral with (digit | rfl) | rfl
  · have range := toNat_of_isDigit digit
    omega
  · decide
  · decide

theorem isNumeralChar_of_isDigit {c : Char} (digit : c.isDigit = true) : isNumeralChar c = true := by
  simp [isNumeralChar, digit]

theorem isBlank_of_isNumeralChar {c : Char} (numeral : isNumeralChar c = true) :
    Text.isBlank c = false := by
  have range := toNat_of_isNumeralChar numeral
  simp only [Text.isBlank, Bool.or_eq_false_iff, Bool.and_eq_false_iff, decide_eq_false_iff_not,
    beq_eq_false_iff_ne]
  omega

end Token

theorem Text.trim_eq_self {p : Char → Bool} {cs : List Char} (kept : ∀ c ∈ cs, p c = false) :
    Text.trim p cs = cs := by
  have whole : ∀ ds : List Char, (∀ c ∈ ds, p c = false) → ds.dropWhile p = ds := by
    intro ds keep
    cases ds with
    | nil => rfl
    | cons d ds => simp [keep d List.mem_cons_self]
  have reversed : ∀ c ∈ cs.reverse, p c = false := fun c member => kept c (List.mem_reverse.mp member)
  rw [Text.trim, whole cs kept, whole _ reversed, List.reverse_reverse]

namespace Numeral

def digitOf (c : Char) : Nat := c.toNat - '0'.toNat

theorem digitValue?_eq {c : Char} (digit : c.isDigit = true) : Text.digitValue? c = some (digitOf c) := by
  have range := Token.toNat_of_isDigit digit
  have inside : (decide (0x30 ≤ c.toNat) && decide (c.toNat < 0x30 + 10)) = true := by
    simp only [Bool.and_eq_true, decide_eq_true_eq]
    omega
  obtain ⟨others, first⟩ : ∃ others, Text.zeros = 0x30 :: others := ⟨_, rfl⟩
  simp only [Text.digitValue?, first, List.find?_cons, inside, Option.map_some]
  rfl

theorem digits?_eq {cs : List Char} (nonempty : cs ≠ []) (digits : ∀ c ∈ cs, c.isDigit = true) :
    digits? cs = some (cs.map digitOf) := by
  fun_induction digits? cs with
  | case1 => contradiction
  | case2 c =>
    rw [digitValue?_eq (digits c List.mem_cons_self)]
    rfl
  | case3 c rest =>
    -- An underscore is no digit.
    have underscore := digits '_' (by simp)
    contradiction
  | case4 c rest single underscored ih =>
    have more : rest ≠ [] := fun none => single none
    rw [digitValue?_eq (digits c List.mem_cons_self),
      ih more fun d member => digits d (List.mem_cons_of_mem c member)]
    rfl

theorem optionalDigits?_eq {cs : List Char} (digits : ∀ c ∈ cs, c.isDigit = true) :
    optionalDigits? cs = some (cs.map digitOf) := by
  cases cs with
  | nil => rfl
  | cons c cs => exact digits?_eq (List.cons_ne_nil c cs) digits

theorem ofDigits_map (cs : List Char) : ofDigits (cs.map digitOf) = Nat.ofDigitChars 10 cs 0 := by
  simp only [ofDigits, List.foldl_map]
  rfl

theorem ne_of_isDigit {c d : Char} (digit : c.isDigit = true) (other : d.isDigit = false) : c ≠ d :=
  fun same => by simp [same, other] at digit

theorem splitSign_signText (negative : Bool) {c : Char} (minus : c ≠ '-') (plus : c ≠ '+') (cs : List Char) :
    splitSign (Binary64.signText negative ++ c :: cs) = (negative, c :: cs) := by
  cases negative with
  | true => rfl
  | false =>
    simp only [Binary64.signText, Bool.false_eq_true, ↓reduceIte, List.nil_append]
    unfold splitSign
    split
    · rename_i same
      exact absurd (List.cons.inj same).1 minus
    · rename_i same
      exact absurd (List.cons.inj same).1 plus
    · rfl

theorem isMargin_eq_false {c : Char} (numeral : Token.isNumeralChar c = true) : Text.isMargin c = false := by
  rw [Text.isMargin, Token.isBlank_of_isNumeralChar numeral, Bool.false_and]

theorem trim_numeral {cs : List Char} (numeral : ∀ c ∈ cs, Token.isNumeralChar c = true) :
    Text.trim Text.isMargin cs = cs :=
  Text.trim_eq_self fun c member => isMargin_eq_false (numeral c member)

theorem signText_numeral {negative : Bool} {c : Char} (member : c ∈ Binary64.signText negative) :
    Token.isNumeralChar c = true := by
  cases negative with
  | true =>
    rw [List.mem_singleton.mp member]
    rfl
  | false => exact absurd member List.not_mem_nil

theorem signed_numeral {negative : Bool} {cs : List Char} (numeral : ∀ c ∈ cs, Token.isNumeralChar c = true) :
    ∀ c ∈ Binary64.signText negative ++ cs, Token.isNumeralChar c = true := by
  intro c member
  rcases List.mem_append.mp member with sign | rest
  · exact signText_numeral sign
  · exact numeral c rest

theorem point_not_mem_signed {negative : Bool} {cs : List Char} (digits : ∀ c ∈ cs, c.isDigit = true) :
    '.' ∉ Binary64.signText negative ++ cs := by
  intro point
  rcases List.mem_append.mp point with sign | digit
  · cases negative <;> simp [Binary64.signText] at sign
  · exact absurd (digits '.' digit) (by decide)

theorem toDigits_isDigit {n : Nat} {c : Char} (member : c ∈ Nat.toDigits 10 n) : c.isDigit = true :=
  Nat.isDigit_of_mem_toDigits (by decide) (by decide) member

theorem intText_numeral {n : Int} {c : Char}
    (member : c ∈ Binary64.signText (n < 0) ++ Nat.toDigits 10 n.natAbs) :
    Token.isNumeralChar c = true :=
  signed_numeral (fun _ digit => Token.isNumeralChar_of_isDigit (toDigits_isDigit digit)) c member

theorem signed_natAbs (n : Int) : signed (decide (n < 0)) n.natAbs = n := by
  by_cases negative : n < 0
  · simp only [signed, negative, decide_true, ↓reduceIte]
    omega
  · simp only [signed, negative, decide_false, Bool.false_eq_true, ↓reduceIte]
    omega

theorem length_toDigits_le {n : Nat} (short : Decimal.width n ≤ Number.maxDigits) :
    (Nat.toDigits 10 n).length ≤ Number.maxDigits := by
  by_cases zero : n = 0
  · rw [zero]
    decide
  · simpa only [Decimal.width, zero, ↓reduceIte] using short

theorem int?_digits (negative : Bool) {cs : List Char} (nonempty : cs ≠ [])
    (digits : ∀ c ∈ cs, c.isDigit = true) :
    int? (Binary64.signText negative ++ cs) =
      if Number.maxDigits < cs.length then none else some (signed negative (Nat.ofDigitChars 10 cs 0)) := by
  have numeral : ∀ c ∈ Binary64.signText negative ++ cs, Token.isNumeralChar c = true :=
    signed_numeral fun c digit => Token.isNumeralChar_of_isDigit (digits c digit)
  obtain ⟨c, rest, rfl⟩ := List.exists_cons_of_ne_nil nonempty
  have digit := digits c List.mem_cons_self
  rw [int?, trim_numeral numeral, splitSign_signText _ (ne_of_isDigit digit rfl) (ne_of_isDigit digit rfl)]
  simp only [digits?_eq nonempty digits, Option.bind_some, List.length_map, ofDigits_map]

theorem int?_intText {n : Int} (short : Decimal.width n.natAbs ≤ Number.maxDigits) :
    int? (Binary64.signText (n < 0) ++ Nat.toDigits 10 n.natAbs) = some n := by
  have fits : ¬ Number.maxDigits < (Nat.toDigits 10 n.natAbs).length :=
    Nat.not_lt.mpr (length_toDigits_le short)
  rw [int?_digits _ Nat.toDigits_ne_nil fun c => toDigits_isDigit, if_neg fits,
    Nat.ofDigitChars_ten_toDigits, signed_natAbs]

theorem contains_point_intText (n : Int) :
    (Binary64.signText (n < 0) ++ Nat.toDigits 10 n.natAbs).contains '.' = false := by
  rw [← Bool.not_eq_true, List.contains_iff_mem]
  exact point_not_mem_signed fun c => toDigits_isDigit

theorem read_intText {n : Int} (short : Decimal.width n.natAbs ≤ Number.maxDigits) :
    read (Number.intText n) = .ok (.int n) := by
  simp only [read, Number.intText, String.toList_ofList, contains_point_intText, Bool.false_eq_true,
    ↓reduceIte, int?_intText short]

theorem mantissa?_point {whole fraction : List Char} (nonempty : whole ≠ [] ∨ fraction ≠ [])
    (wholeDigits : ∀ c ∈ whole, c.isDigit = true) (fractionDigits : ∀ c ∈ fraction, c.isDigit = true) :
    mantissa? (whole ++ '.' :: fraction) = some (whole.map digitOf, fraction.map digitOf) := by
  have before : ∀ c ∈ whole, (c != '.') = true := fun c member =>
    bne_iff_ne.mpr (ne_of_isDigit (wholeDigits c member) rfl)
  have front : (whole ++ '.' :: fraction).takeWhile (· != '.') = whole := by
    rw [List.takeWhile_append_of_pos before]
    simp
  have back : (whole ++ '.' :: fraction).dropWhile (· != '.') = '.' :: fraction := by
    rw [List.dropWhile_append_of_pos before]
    simp
  have filled : ((whole.map digitOf).isEmpty && (fraction.map digitOf).isEmpty) = false := by
    rcases nonempty with nonempty | nonempty <;> simp [nonempty]
  simp only [mantissa?, front, back, optionalDigits?_eq wholeDigits, optionalDigits?_eq fractionDigits,
    Option.bind_some, filled, Bool.false_eq_true, ↓reduceIte]

theorem isExponentMark_eq_false {c : Char} (numeral : Token.isNumeralChar c = true) : isExponentMark c = false := by
  have range := Token.toNat_of_isNumeralChar numeral
  rw [isExponentMark, Bool.or_eq_false_iff, beq_eq_false_iff_ne, beq_eq_false_iff_ne]
  constructor
  · rintro rfl
    exact absurd range (by decide)
  · rintro rfl
    exact absurd range (by decide)

theorem decimal?_numeral {cs : List Char} (numeral : ∀ c ∈ cs, Token.isNumeralChar c = true) :
    decimal? cs = (mantissa? cs).map fun (whole, fraction) =>
      ⟨ofDigits (whole ++ fraction), -(fraction.length : Int)⟩ := by
  have unmarked : ∀ c ∈ cs, (!isExponentMark c) = true := by
    intro c member
    rw [isExponentMark_eq_false (numeral c member), Bool.not_false]
  have front := @List.takeWhile_append_of_pos _ _ _ [] unmarked
  have back := @List.dropWhile_append_of_pos _ _ _ [] unmarked
  simp only [List.append_nil, List.takeWhile_nil, List.dropWhile_nil] at front back
  simp only [decimal?, front, back, Int.zero_sub]
  cases mantissa? cs with
  | none => rfl
  | some parts => rfl

theorem toLower_eq_self {c : Char} (numeral : Token.isNumeralChar c = true) : c.toLower = c := by
  have range := Token.toNat_of_isNumeralChar numeral
  apply dif_neg
  intro upper
  have letter : 65 ≤ c.toNat := upper.1
  omega

theorem unsigned?_of_mem (negative : Bool) {cs : List Char} {c : Char} (member : c ∈ cs)
    (numeral : Token.isNumeralChar c = true) :
    unsigned? negative cs = (decimal? cs).map (Decimal.toBinary64 negative) := by
  have lower : c ∈ (String.ofList (cs.map Char.toLower)).toList := by
    rw [String.toList_ofList, ← toLower_eq_self numeral]
    exact List.mem_map_of_mem member
  -- The words for the other numbers are letters only.
  have spelled : ∀ word : String, word.toList.any Token.isNumeralChar = false →
      String.ofList (cs.map Char.toLower) ≠ word := by
    intro word letters same
    rw [same] at lower
    rw [List.any_eq_true.mpr ⟨c, lower, numeral⟩] at letters
    contradiction
  simp only [unsigned?, spelled "inf" rfl, spelled "infinity" rfl, spelled "nan" rfl, or_self, ↓reduceIte]

theorem isDigit_or_eq_point {whole fraction : List Char} (wholeDigits : ∀ c ∈ whole, c.isDigit = true)
    (fractionDigits : ∀ c ∈ fraction, c.isDigit = true) :
    ∀ c ∈ whole ++ '.' :: fraction, c.isDigit = true ∨ c = '.' := by
  intro c member
  rcases List.mem_append.mp member with first | rest
  · exact .inl (wholeDigits c first)
  · rcases List.mem_cons.mp rest with point | last
    · exact .inr point
    · exact .inl (fractionDigits c last)

theorem around_point_numeral {whole fraction : List Char} (wholeDigits : ∀ c ∈ whole, c.isDigit = true)
    (fractionDigits : ∀ c ∈ fraction, c.isDigit = true) :
    ∀ c ∈ whole ++ '.' :: fraction, Token.isNumeralChar c = true := by
  intro c member
  rcases isDigit_or_eq_point wholeDigits fractionDigits c member with digit | rfl
  · exact Token.isNumeralChar_of_isDigit digit
  · rfl

theorem float?_point (negative : Bool) {whole fraction : List Char} (nonempty : whole ≠ [] ∨ fraction ≠ [])
    (wholeDigits : ∀ c ∈ whole, c.isDigit = true) (fractionDigits : ∀ c ∈ fraction, c.isDigit = true) :
    float? (Binary64.signText negative ++ (whole ++ '.' :: fraction)) =
      some (Decimal.toBinary64 negative
        ⟨Nat.ofDigitChars 10 (whole ++ fraction) 0, -(fraction.length : Int)⟩) := by
  have point : '.' ∈ whole ++ '.' :: fraction := by simp
  have plain := isDigit_or_eq_point wholeDigits fractionDigits
  have numeral := around_point_numeral wholeDigits fractionDigits
  have unsigned : unsigned? negative (whole ++ '.' :: fraction) = some (Decimal.toBinary64 negative
      ⟨Nat.ofDigitChars 10 (whole ++ fraction) 0, -(fraction.length : Int)⟩) := by
    rw [unsigned?_of_mem negative point rfl, decimal?_numeral numeral,
      mantissa?_point nonempty wholeDigits fractionDigits]
    simp only [Option.map_some, ← List.map_append, ofDigits_map, List.length_map]
  rw [float?, trim_numeral (signed_numeral numeral)]
  -- No sign is taken from what stands behind the sign.
  generalize whole ++ '.' :: fraction = body at point plain unsigned
  obtain ⟨c, cs, rfl⟩ := List.exists_cons_of_ne_nil (List.ne_nil_of_mem point)
  have first : c ≠ '-' ∧ c ≠ '+' := by
    rcases plain c List.mem_cons_self with digit | rfl
    · exact ⟨ne_of_isDigit digit rfl, ne_of_isDigit digit rfl⟩
    · exact ⟨by decide, by decide⟩
  rw [splitSign_signText negative first.1 first.2]
  exact unsigned

/-- Digits before a point and digits behind it that spell a decimal: `shift` zeros may stand behind its
own digits, and the places behind the point make up for them. -/
structure Pointed (d : Decimal) (text : List Char) where
  whole : List Char
  fraction : List Char
  shift : Nat
  text_eq : text = whole ++ '.' :: fraction
  whole_ne_nil : whole ≠ []
  whole_isDigit : ∀ c ∈ whole, c.isDigit = true
  fraction_isDigit : ∀ c ∈ fraction, c.isDigit = true
  value : Nat.ofDigitChars 10 (whole ++ fraction) 0 = d.digits * 10 ^ shift
  places : -(fraction.length : Int) = d.exponent - shift

theorem replicate_zero_isDigit {n : Nat} {c : Char} (member : c ∈ List.replicate n '0') :
    c.isDigit = true := by
  rw [List.eq_of_mem_replicate member]
  rfl

theorem ofDigitChars_append_zeros (digits : List Char) (n : Nat) :
    Nat.ofDigitChars 10 (digits ++ List.replicate n '0') 0 = Nat.ofDigitChars 10 digits 0 * 10 ^ n := by
  rw [Nat.ofDigitChars_append, Nat.ofDigitChars_replicate_zero, Nat.mul_comm]

theorem positional_pointed {digits : List Char} (nonempty : digits ≠ [])
    (isDigit : ∀ c ∈ digits, c.isDigit = true) (point : Int) :
    Nonempty (Pointed ⟨Nat.ofDigitChars 10 digits 0, point - digits.length⟩
      (Decimal.positional digits point)) := by
  unfold Decimal.positional
  split
  · rename_i low
    refine ⟨['0'], List.replicate (-point).toNat '0' ++ digits, 0, rfl, by simp, by simp, ?_, ?_, ?_⟩
    · intro c member
      rcases List.mem_append.mp member with zero | digit
      · exact replicate_zero_isDigit zero
      · exact isDigit c digit
    · have zeros := @Nat.ofDigitChars_replicate_zero 10 0 ((-point).toNat + 1)
      rw [List.replicate_succ, Nat.mul_zero] at zeros
      rw [List.singleton_append, ← List.cons_append, Nat.ofDigitChars_append, zeros, Nat.pow_zero,
        Nat.mul_one]
    · simp only [List.length_append, List.length_replicate]
      omega
  · split
    · rename_i positive short
      refine ⟨digits ++ List.replicate (point.toNat - digits.length) '0', ['0'],
        point.toNat - digits.length + 1, by simp, by simp [nonempty], ?_, by simp, ?_, ?_⟩
      · intro c member
        rcases List.mem_append.mp member with digit | zero
        · exact isDigit c digit
        · exact replicate_zero_isDigit zero
      · rw [List.append_assoc, ← List.replicate_succ', ofDigitChars_append_zeros]
      · simp only [List.length_singleton]
        omega
    · rename_i positive long
      refine ⟨digits.take point.toNat, digits.drop point.toNat, 0, rfl, ?_, ?_, ?_, ?_, ?_⟩
      · rw [← List.length_pos_iff, List.length_take]
        omega
      · exact fun c member => isDigit c (List.mem_of_mem_take member)
      · exact fun c member => isDigit c (List.mem_of_mem_drop member)
      · rw [List.take_append_drop, Nat.pow_zero, Nat.mul_one]
      · simp only [List.length_drop]
        omega

namespace Pointed

variable {d : Decimal} {text : List Char}

theorem mem_text (pointed : Pointed d text) : '.' ∈ text := by
  rw [pointed.text_eq]
  simp

theorem numeral (pointed : Pointed d text) {c : Char} (member : c ∈ text) :
    Token.isNumeralChar c = true := by
  rw [pointed.text_eq] at member
  exact around_point_numeral pointed.whole_isDigit pointed.fraction_isDigit c member

theorem float? (pointed : Pointed d text) (negative : Bool) :
    float? (Binary64.signText negative ++ text) = some (d.toBinary64 negative) := by
  have value := Decimal.toBinary64_shift negative d.digits pointed.shift d.exponent
  rw [← pointed.value, ← pointed.places] at value
  rw [pointed.text_eq, float?_point negative (.inl pointed.whole_ne_nil) pointed.whole_isDigit
    pointed.fraction_isDigit, value]

end Pointed

theorem toDigits_pointed {d : Decimal} (nonzero : d.digits ≠ 0) :
    Nonempty (Pointed d
      (Decimal.positional (Nat.toDigits 10 d.digits) (Decimal.width d.digits + d.exponent))) := by
  have length : (Nat.toDigits 10 d.digits).length = Decimal.width d.digits := by
    simp only [Decimal.width, nonzero, ↓reduceIte]
  have place : (Decimal.width d.digits + d.exponent) - (Decimal.width d.digits : Int) = d.exponent := by
    omega
  have pointed := @positional_pointed (Nat.toDigits 10 d.digits) Nat.toDigits_ne_nil
    (fun c => toDigits_isDigit) (Decimal.width d.digits + d.exponent)
  rwa [length, place, Nat.ofDigitChars_ten_toDigits] at pointed

theorem textChars_pointed (negative : Bool) (r : Fin Binary64.ranks) :
    ∃ d body, Nonempty (Pointed d body) ∧
      Binary64.textChars (.finite negative r) = Binary64.signText negative ++ body ∧
      d.toBinary64 negative = .finite negative r := by
  by_cases zero : r.val = 0
  · have same : Binary64.zero negative = .finite negative r := by
      simp only [Binary64.zero, Binary64.ofRank, ← zero, r.isLt, ↓reduceDIte, Fin.eta]
    have pointed : Pointed ⟨0, 0⟩ "0.0".toList :=
      ⟨['0'], ['0'], 1, rfl, by simp, by simp, by simp, rfl, rfl⟩
    refine ⟨⟨0, 0⟩, _, ⟨pointed⟩, ?_, ?_⟩
    · simp only [Binary64.textChars, zero, ↓reduceIte]
    · rw [← same, Decimal.toBinary64_of_digits_eq_zero negative rfl]
  · refine ⟨(Decimal.shortest r).normal, (Decimal.shortest r).positionalChars,
      toDigits_pointed (Decimal.shortest_normal_digits_ne_zero zero), ?_,
      Decimal.toBinary64_shortest negative zero⟩
    simp only [Binary64.textChars, zero, ↓reduceIte]

theorem read_float {x : Binary64} (finite : x.isFinite = true) : read x.text = .ok (.float x) := by
  cases x with
  | finite negative r =>
    obtain ⟨d, body, ⟨pointed⟩, spelled, same⟩ := textChars_pointed negative r
    have point : (Binary64.signText negative ++ body).contains '.' = true :=
      List.contains_iff_mem.mpr (List.mem_append_right _ pointed.mem_text)
    simp only [read, Binary64.text, String.toList_ofList, spelled, point, ↓reduceIte,
      pointed.float? negative, same, Binary64.isFinite]
  | infinite negative => contradiction
  | nan tag => contradiction

end Numeral

namespace Number

/-- The numbers that have a numeral: finite ones, integers of an admitted length, no truth values. -/
def hasNumeral : Number → Bool
  | int n => Decimal.width n.natAbs ≤ maxDigits
  | float x => x.isFinite
  | bool _ => false

theorem isWritable_of_hasNumeral {n : Number} (numeral : n.hasNumeral = true) : n.isWritable = true := by
  cases n with
  | int n => exact numeral
  | float x => rfl
  | bool b => rfl

/-- The text of a number is read back as the number, of the same kind. -/
theorem read_text {n : Number} (numeral : n.hasNumeral = true) : Numeral.read n.text = .ok n := by
  cases n with
  | int n => exact Numeral.read_intText (of_decide_eq_true numeral)
  | float x => exact Numeral.read_float numeral
  | bool b => contradiction

theorem isNumeralChar_of_mem_text {n : Number} (numeral : n.hasNumeral = true) {c : Char}
    (member : c ∈ n.text.toList) : Token.isNumeralChar c = true := by
  cases n with
  | int n =>
    rw [text, intText, String.toList_ofList] at member
    exact Numeral.intText_numeral member
  | float x =>
    rw [text, Binary64.text, String.toList_ofList] at member
    cases x with
    | finite negative r =>
      obtain ⟨d, body, ⟨pointed⟩, spelled, -⟩ := Numeral.textChars_pointed negative r
      rw [spelled] at member
      exact Numeral.signed_numeral (fun _ => pointed.numeral) c member
    | infinite negative => contradiction
    | nan tag => contradiction
  | bool b => contradiction

theorem text_ne_nil {n : Number} (numeral : n.hasNumeral = true) : n.text.toList ≠ [] := by
  intro empty
  have read := read_text numeral
  rw [String.toList_eq_nil_iff.mp empty] at read
  have refused : Numeral.read "" = .error (.malformed "") := rfl
  rw [refused] at read
  contradiction

end Number

end LambdaCalc
