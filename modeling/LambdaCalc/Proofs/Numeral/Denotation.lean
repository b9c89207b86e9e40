import LambdaCalc.Proofs.Numeral.Recognition
import Mathlib.Algebra.Order.Field.Rat

namespace LambdaCalc

attribute [local instance (high)] instPowNat

namespace Decimal

def value (d : Decimal) : ℚ := d.digits * 10 ^ d.exponent

theorem ten_ne_zero : (10 : ℚ) ≠ 0 := by decide

theorem value_shift (n k : Nat) (e : Int) : value ⟨n * 10 ^ k, e - k⟩ = value ⟨n, e⟩ := by
  have power : (10 : ℚ) ^ k * 10 ^ (e - k) = 10 ^ e := by
    rw [← zpow_natCast, ← zpow_add₀ ten_ne_zero]
    congr 1
    omega
  rw [value, value, Nat.cast_mul, Nat.cast_pow, Nat.cast_ofNat, mul_assoc, power]

theorem eq_of_value_eq {n m : Nat} {e : Int} (same : value ⟨n, e⟩ = value ⟨m, e⟩) : n = m := by
  have power : (10 : ℚ) ^ e ≠ 0 := zpow_ne_zero e ten_ne_zero
  exact Nat.cast_injective (mul_right_cancel₀ power same)

theorem toBinary64_congr (negative : Bool) {d d' : Decimal} (same : d.value = d'.value) :
    toBinary64 negative d = toBinary64 negative d' := by
  have finer : ∀ d d' : Decimal, d.value = d'.value → d'.exponent ≤ d.exponent →
      toBinary64 negative d = toBinary64 negative d' := by
    rintro ⟨n, e⟩ ⟨m, e'⟩ same below
    obtain ⟨k, rfl⟩ : ∃ k : Nat, e' = e - k := ⟨(e - e').toNat, by simp only at below; omega⟩
    rw [← value_shift n k e] at same
    rw [← eq_of_value_eq same, toBinary64_shift]
  rcases Int.le_total d'.exponent d.exponent with below | above
  · exact finer d d' same below
  · exact (finer d' d same.symm above).symm

end Decimal

namespace Numeral

variable {cs mantissa exponent : List Char} {negative : Bool} {n places : Nat} {e : Int} {value : ℚ}

/-- `Mantissa text n places`: digits that spell `n`, of which `places` stand behind a point. -/
inductive Mantissa : List Char → Nat → Nat → Prop where
  | whole {digits : List Char} (nonempty : digits ≠ []) (isDigit : ∀ c ∈ digits, c.isDigit = true) :
      Mantissa digits (Nat.ofDigitChars 10 digits 0) 0
  | point {whole fraction : List Char} (nonempty : whole ≠ []) (wholeDigits : ∀ c ∈ whole, c.isDigit = true)
      (fractionDigits : ∀ c ∈ fraction, c.isDigit = true) :
      Mantissa (whole ++ '.' :: fraction) (Nat.ofDigitChars 10 (whole ++ fraction) 0) fraction.length

/-- No exponent, or a mark, a sign and digits. -/
inductive Exponent : List Char → Int → Prop where
  | none : Exponent [] 0
  | marked {digits : List Char} (negative : Bool) (nonempty : digits ≠ [])
      (isDigit : ∀ c ∈ digits, c.isDigit = true) :
      Exponent ('e' :: (if negative then '-' else '+') :: digits) (signed negative (Nat.ofDigitChars 10 digits 0))

/-- `Denotes text negative value`: the decimal or exponent text denotes the value with the sign, which a zero has
as well. -/
inductive Denotes : List Char → Bool → ℚ → Prop where
  | intro {negative : Bool} {mantissa exponent : List Char} {n places : Nat} {e : Int}
      (digits : Mantissa mantissa n places) (power : Exponent exponent e) :
      Denotes (Binary64.signText negative ++ (mantissa ++ exponent)) negative (n * 10 ^ (e - places))

theorem Mantissa.numeral (digits : Mantissa mantissa n places) :
    ∀ c ∈ mantissa, Token.isNumeralChar c = true := by
  cases digits with
  | whole nonempty isDigit => exact fun c member => Token.isNumeralChar_of_isDigit (isDigit c member)
  | point nonempty wholeDigits fractionDigits => exact around_point_numeral wholeDigits fractionDigits

theorem Mantissa.head (digits : Mantissa mantissa n places) :
    ∃ c rest, mantissa = c :: rest ∧ c.isDigit = true := by
  cases digits with
  | whole nonempty isDigit =>
    obtain ⟨c, rest, rfl⟩ := List.exists_cons_of_ne_nil nonempty
    exact ⟨c, rest, rfl, isDigit c List.mem_cons_self⟩
  | @point whole fraction nonempty wholeDigits fractionDigits =>
    obtain ⟨c, rest, rfl⟩ := List.exists_cons_of_ne_nil nonempty
    exact ⟨c, rest ++ '.' :: fraction, rfl, wholeDigits c List.mem_cons_self⟩

theorem Mantissa.mantissa? (digits : Mantissa mantissa n places) :
    ∃ whole fraction, mantissa? mantissa = some (whole, fraction) ∧ ofDigits (whole ++ fraction) = n ∧
      fraction.length = places := by
  cases digits with
  | whole nonempty isDigit =>
    have plain : ∀ c ∈ mantissa, (c != '.') = true := fun c member =>
      bne_iff_ne.mpr (ne_of_isDigit (isDigit c member) rfl)
    have front := @List.takeWhile_append_of_pos _ _ _ [] plain
    have back := @List.dropWhile_append_of_pos _ _ _ [] plain
    simp only [List.append_nil, List.takeWhile_nil, List.dropWhile_nil] at front back
    refine ⟨mantissa.map digitOf, [], ?_, ?_, rfl⟩
    · simp only [Numeral.mantissa?, front, back, digits?_eq nonempty isDigit, Option.map_some]
    · rw [List.append_nil, ofDigits_map]
  | @point whole fraction nonempty wholeDigits fractionDigits =>
    refine ⟨whole.map digitOf, fraction.map digitOf, ?_, ?_, List.length_map _⟩
    · exact mantissa?_point (.inl nonempty) wholeDigits fractionDigits
    · rw [← List.map_append, ofDigits_map]

theorem exponent?_marked {digits : List Char} (negative : Bool) (nonempty : digits ≠ [])
    (isDigit : ∀ c ∈ digits, c.isDigit = true) :
    exponent? ((if negative then '-' else '+') :: digits) =
      some (signed negative (Nat.ofDigitChars 10 digits 0)) := by
  have spelled := digits?_eq nonempty isDigit
  cases negative <;>
    simp only [exponent?, splitSign, Bool.false_eq_true, ↓reduceIte, spelled, Option.map_some, ofDigits_map]

theorem decimal?_of_parts (digits : Mantissa mantissa n places) (power : Exponent exponent e) :
    decimal? (mantissa ++ exponent) = some ⟨n, e - places⟩ := by
  obtain ⟨whole, fraction, spelled, rfl, rfl⟩ := digits.mantissa?
  have unmarked : ∀ c ∈ mantissa, (!isExponentMark c) = true := by
    intro c member
    rw [isExponentMark_eq_false (digits.numeral c member), Bool.not_false]
  cases power with
  | none =>
    rw [List.append_nil, decimal?_numeral digits.numeral, spelled, Int.zero_sub]
    rfl
  | @marked exponentDigits negative nonempty isDigit =>
    have stop : (!isExponentMark 'e') = false := rfl
    have front : (mantissa ++ 'e' :: (if negative then '-' else '+') :: exponentDigits).takeWhile
        (!isExponentMark ·) = mantissa := by
      rw [List.takeWhile_append_of_pos unmarked, List.takeWhile_cons_of_neg (by rw [stop]; decide), List.append_nil]
    have back : (mantissa ++ 'e' :: (if negative then '-' else '+') :: exponentDigits).dropWhile
        (!isExponentMark ·) = 'e' :: (if negative then '-' else '+') :: exponentDigits := by
      rw [List.dropWhile_append_of_pos unmarked, List.dropWhile_cons_of_neg (by rw [stop]; decide)]
    simp only [decimal?, front, back, spelled, Option.bind_some, exponent?_marked negative nonempty isDigit,
      Option.map_some]

theorem Denotes.split (denotes : Denotes cs negative value) :
    ∃ body d, splitSign cs = (negative, body) ∧ decimal? body = some d ∧ d.value = value ∧
      ∃ c ∈ body, Token.isNumeralChar c = true := by
  cases denotes with
  | @intro negative mantissa exponent n places e digits power =>
    obtain ⟨c, rest, rfl, digit⟩ := digits.head
    refine ⟨c :: rest ++ exponent, ⟨n, e - places⟩, ?_, decimal?_of_parts digits power, rfl, c, ?_, ?_⟩
    · exact splitSign_signText negative (ne_of_isDigit digit rfl) (ne_of_isDigit digit rfl) (rest ++ exponent)
    · exact List.mem_cons_self
    · exact Token.isNumeralChar_of_isDigit digit

theorem Denotes.unique {otherNegative : Bool} {other : ℚ} (denotes : Denotes cs negative value)
    (again : Denotes cs otherNegative other) : negative = otherNegative ∧ value = other := by
  obtain ⟨body, d, signed, decimal, rfl, -⟩ := denotes.split
  obtain ⟨otherBody, d', otherSigned, otherDecimal, rfl, -⟩ := again.split
  rw [signed] at otherSigned
  cases otherSigned
  rw [decimal] at otherDecimal
  cases otherDecimal
  exact ⟨rfl, rfl⟩

theorem Denotes.mem (denotes : Denotes cs negative value) {c : Char} (member : c ∈ cs) :
    Token.isNumeralChar c = true ∨ c = 'e' ∨ c = '+' := by
  cases denotes with
  | intro digits power =>
    rcases List.mem_append.mp member with sign | rest
    · exact .inl (signText_numeral sign)
    · rcases List.mem_append.mp rest with digit | behind
      · exact .inl (digits.numeral c digit)
      · cases power with
        | none => cases behind
        | marked negative nonempty isDigit =>
          rcases List.mem_cons.mp behind with rfl | behind
          · exact .inr (.inl rfl)
          · rcases List.mem_cons.mp behind with rfl | digit
            · cases negative with
              | true => exact .inl rfl
              | false => exact .inr (.inr rfl)
            · exact .inl (Token.isNumeralChar_of_isDigit (isDigit c digit))

theorem Denotes.trim (denotes : Denotes cs negative value) : Text.trim Text.isMargin cs = cs := by
  apply Text.trim_eq_self
  intro c member
  rcases denotes.mem member with numeral | rfl | rfl
  · exact isMargin_eq_false numeral
  · rfl
  · rfl

theorem Denotes.float? (denotes : Denotes cs negative value) :
    ∃ d : Decimal, d.value = value ∧ float? cs = some (d.toBinary64 negative) := by
  obtain ⟨body, d, signed, decimal, same, c, member, numeral⟩ := denotes.split
  refine ⟨d, same, ?_⟩
  simp only [Numeral.float?, denotes.trim, signed, unsigned?_of_mem negative member numeral, decimal, Option.map_some]

theorem float?_eq_of_denotes {others : List Char} (denotes : Denotes cs negative value)
    (same : Denotes others negative value) : float? cs = float? others := by
  obtain ⟨d, valued, read⟩ := denotes.float?
  obtain ⟨d', otherValued, otherRead⟩ := same.float?
  rw [read, otherRead, Decimal.toBinary64_congr negative (valued.trans otherValued.symm)]

theorem Pointed.denotes {d : Decimal} {text : List Char} (pointed : Pointed d text) (negative : Bool) :
    Denotes (Binary64.signText negative ++ text) negative d.value := by
  have digits := Mantissa.point pointed.whole_ne_nil pointed.whole_isDigit pointed.fraction_isDigit
  have denotes := @Denotes.intro negative _ _ _ _ _ digits .none
  have same : ((Nat.ofDigitChars 10 (pointed.whole ++ pointed.fraction) 0 : ℕ) : ℚ) *
      10 ^ (0 - (pointed.fraction.length : Int)) = d.value := by
    rw [pointed.value, Int.zero_sub, pointed.places]
    exact Decimal.value_shift d.digits pointed.shift d.exponent
  rwa [List.append_nil, ← pointed.text_eq, same] at denotes

theorem exponent_exponentText (e : Int) : Exponent ('e' :: Decimal.exponentText e) e := by
  let digits := Nat.toDigits 10 e.natAbs
  let padded := if digits.length < 2 then '0' :: digits else digits
  have filled : padded ≠ [] ∧ (∀ c ∈ padded, c.isDigit = true) ∧ Nat.ofDigitChars 10 padded 0 = e.natAbs := by
    have spelled : Nat.ofDigitChars 10 digits 0 = e.natAbs := Nat.ofDigitChars_ten_toDigits
    by_cases short : digits.length < 2
    · simp only [padded, short, ↓reduceIte]
      refine ⟨List.cons_ne_nil _ _, List.forall_mem_cons.mpr ⟨rfl, fun c => toDigits_isDigit⟩, ?_⟩
      exact spelled
    · simp only [padded, short, ↓reduceIte]
      exact ⟨Nat.toDigits_ne_nil, fun c => toDigits_isDigit, spelled⟩
  have exponent := Exponent.marked (decide (e < 0)) filled.1 filled.2.1
  rw [filled.2.2, signed_natAbs] at exponent
  simp only [decide_eq_true_eq] at exponent
  exact exponent

section

variable {digits : List Char} (nonempty : digits ≠ []) (isDigit : ∀ c ∈ digits, c.isDigit = true) (point : Int)
  (negative : Bool)

include nonempty isDigit

theorem positional_denotes :
    Denotes (Binary64.signText negative ++ Decimal.positional digits point) negative
      (Decimal.value ⟨Nat.ofDigitChars 10 digits 0, point - digits.length⟩) := by
  obtain ⟨pointed⟩ := positional_pointed nonempty isDigit point
  exact pointed.denotes negative

theorem scientific_denotes :
    Denotes (Binary64.signText negative ++ Decimal.scientific digits point) negative
      (Decimal.value ⟨Nat.ofDigitChars 10 digits 0, point - digits.length⟩) := by
  obtain ⟨c, rest, rfl⟩ := List.exists_cons_of_ne_nil nonempty
  obtain ⟨first, others⟩ := List.forall_mem_cons.mp isDigit
  have power := exponent_exponentText (point - 1)
  cases rest with
  | nil =>
    have denotes := @Denotes.intro negative _ _ _ _ _ (Mantissa.whole nonempty isDigit) power
    have place : point - 1 - ((0 : Nat) : Int) = point - [c].length := by
      simp only [List.length_singleton]
      omega
    rw [place] at denotes
    exact denotes
  | cons d rest =>
    have digits := @Mantissa.point [c] (d :: rest) (List.cons_ne_nil _ _) (by simpa using first) others
    have denotes := @Denotes.intro negative _ _ _ _ _ digits power
    have place : point - 1 - ((d :: rest).length : Int) = point - (c :: d :: rest).length := by
      simp only [List.length_cons]
      omega
    rw [place] at denotes
    exact denotes

end

theorem displayChars_cases (negative : Bool) (r : Fin Binary64.ranks) :
    Binary64.displayChars (.finite negative r) = Binary64.textChars (.finite negative r) ∨
      r.val ≠ 0 ∧ Binary64.displayChars (.finite negative r) = Binary64.signText negative ++
        Decimal.scientific (Decimal.shortest r).spread.1 (Decimal.shortest r).spread.2 := by
  by_cases near : r.val = 0 ∨ (-4 < (Decimal.shortest r).spread.2 ∧ (Decimal.shortest r).spread.2 ≤ 16)
  · left
    simp only [Binary64.displayChars, near, ↓reduceIte]
  · right
    refine ⟨fun zero => near (.inl zero), ?_⟩
    simp only [Binary64.displayChars, near, ↓reduceIte]

theorem texts_denote (negative : Bool) (r : Fin Binary64.ranks) :
    ∃ value, Denotes (Binary64.textChars (.finite negative r)) negative value ∧
      Denotes (Binary64.displayChars (.finite negative r)) negative value := by
  rcases displayChars_cases negative r with same | ⟨nonzero, display⟩
  · obtain ⟨d, body, ⟨pointed⟩, spelled, -⟩ := textChars_pointed negative r
    rw [same, spelled]
    exact ⟨d.value, pointed.denotes negative, pointed.denotes negative⟩
  · have text : Binary64.textChars (.finite negative r) = Binary64.signText negative ++
        Decimal.positional (Decimal.shortest r).spread.1 (Decimal.shortest r).spread.2 := by
      simp only [Binary64.textChars, nonzero, ↓reduceIte, Decimal.positionalChars]
    have nonempty : (Decimal.shortest r).spread.1 ≠ [] := Nat.toDigits_ne_nil
    have isDigit : ∀ c ∈ (Decimal.shortest r).spread.1, c.isDigit = true := fun c => toDigits_isDigit
    rw [text, display]
    exact ⟨_, positional_denotes nonempty isDigit _ negative, scientific_denotes nonempty isDigit _ negative⟩

theorem float?_textChars (negative : Bool) (r : Fin Binary64.ranks) :
    float? (Binary64.textChars (.finite negative r)) = some (.finite negative r) := by
  obtain ⟨d, body, ⟨pointed⟩, spelled, same⟩ := textChars_pointed negative r
  rw [spelled, pointed.float? negative, same]

theorem fractional_textChars (negative : Bool) (r : Fin Binary64.ranks) :
    ∃ whole fraction, Fractional (Binary64.textChars (.finite negative r)) negative whole fraction := by
  obtain ⟨d, body, ⟨pointed⟩, spelled, -⟩ := textChars_pointed negative r
  refine ⟨pointed.whole, pointed.fraction, ?_, .inl pointed.whole_ne_nil, pointed.whole_isDigit,
    pointed.fraction_isDigit⟩
  rw [spelled, ← pointed.text_eq]

theorem count_point_of_fractional {whole fraction : List Char} (form : Fractional cs negative whole fraction) :
    cs.count '.' = 1 := by
  have before : (Binary64.signText negative ++ whole).count '.' = 0 :=
    List.count_eq_zero.mpr (point_not_mem_signed form.whole_isDigit)
  have behind : fraction.count '.' = 0 := List.count_eq_zero.mpr fun point =>
    absurd (form.fraction_isDigit '.' point) (by decide)
  rw [form.text_eq, ← List.append_assoc, List.count_append, List.count_cons_self, before, behind]

end Numeral

namespace Number

open Numeral

/-- Writing and reading are inverse. An integer with few enough digits is read back from its text. The text of a
finite number is digits with one point in them, behind a minus sign if the number has one, and no exponent. It
denotes the value that the text for display denotes, with the same sign, and both are read back as the number. -/
theorem text_inverse :
    (∀ n : Int, Decimal.width n.natAbs ≤ maxDigits →
      (int n).text? = .ok (intText n) ∧ read (intText n) = .ok (.int n)) ∧
    ∀ x : Binary64, x.isFinite = true →
      (float x).text? = .ok x.text ∧
      'e' ∉ x.text.toList ∧ x.text.toList.count '.' = 1 ∧
      (∃ whole fraction, Fractional x.text.toList x.isNegative whole fraction) ∧
      (∃ value, Denotes x.display.toList x.isNegative value) ∧
      (∀ negative value, Denotes x.text.toList negative value ↔ Denotes x.display.toList negative value) ∧
      float? x.display.toList = some x ∧ read x.text = .ok (.float x) := by
  constructor
  · intro n short
    have writable : (int n).isWritable = true := decide_eq_true short
    exact ⟨if_pos writable, read_intText short⟩
  · intro x finite
    have letterless : 'e' ∉ x.text.toList := by
      intro letter
      have numeral := isNumeralChar_of_mem_text (n := float x) finite letter
      cases numeral
    cases x with
    | infinite negative => contradiction
    | nan tag => contradiction
    | finite negative r =>
      obtain ⟨value, text, display⟩ := texts_denote negative r
      obtain ⟨whole, fraction, form⟩ := fractional_textChars negative r
      rw [Binary64.text, String.toList_ofList] at letterless
      rw [Binary64.text, Binary64.display, String.toList_ofList, String.toList_ofList]
      refine ⟨rfl, letterless, count_point_of_fractional form, ⟨whole, fraction, form⟩, ⟨value, display⟩, ?_, ?_, ?_⟩
      · intro other sameValue
        constructor
        · intro denotes
          obtain ⟨rfl, rfl⟩ := text.unique denotes
          exact display
        · intro denotes
          obtain ⟨rfl, rfl⟩ := display.unique denotes
          exact text
      · rw [float?_eq_of_denotes display text, float?_textChars]
      · exact read_float rfl

/-- The exponent moves the point past the last digit. -/
theorem text_inverse_exponent :
    let x := Binary64.ofInt (-250000000000000000000)
    x.display = "-2.5e+20" ∧ x.text = "-250000000000000000000.0" ∧
      (∀ negative value, Denotes "-250000000000000000000.0".toList negative value ↔
        Denotes "-2.5e+20".toList negative value) ∧
      read "-250000000000000000000.0" = .ok (.float x) ∧ read (intText (-7)) = .ok (.int (-7)) := by
  intro x
  have display : x.display = "-2.5e+20" := by decide +kernel
  have text : x.text = "-250000000000000000000.0" := by decide +kernel
  have finite : x.isFinite = true := by decide +kernel
  have short : Decimal.width (-7 : Int).natAbs ≤ maxDigits := by decide
  obtain ⟨-, -, -, -, -, same, -, back⟩ := text_inverse.2 x finite
  rw [text] at same back
  rw [display] at same
  exact ⟨display, text, same, back, (text_inverse.1 (-7) short).2⟩

end Number

end LambdaCalc
