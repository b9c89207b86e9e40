import LambdaCalc.Fault
import LambdaCalc.Proofs.Token.Scanning

namespace LambdaCalc

namespace Text

def Visible (s : String) : Prop := ∀ c ∈ s.toList, isPrintable c = true

instance (s : String) : Decidable (Visible s) :=
  decidable_of_iff (s.toList.all isPrintable = true) List.all_eq_true

theorem visible_ofList {cs : List Char} : Visible (String.ofList cs) ↔ ∀ c ∈ cs, isPrintable c = true := by
  rw [Visible, String.toList_ofList]

theorem Visible.append {s t : String} (first : Visible s) (second : Visible t) : Visible (s ++ t) := by
  intro c member
  rw [String.toList_append] at member
  rcases List.mem_append.mp member with front | back
  · exact first c front
  · exact second c back

theorem Visible.not_mem {s : String} (visible : Visible s) : '\n' ∉ s.toList := by
  intro member
  have printable := visible '\n' member
  exact absurd printable (by decide)

theorem isPrintable_of_toNat {c : Char} (low : 0x20 ≤ c.toNat) (high : c.toNat < 0x7F) : isPrintable c = true := by
  rw [isPrintable, if_pos high, decide_eq_true_eq]
  exact low

theorem isPrintable_hexDigit {n : Nat} (digit : n < 16) : isPrintable (hexDigit n) = true := by
  have all : ∀ k < 16, isPrintable (hexDigit k) = true := by decide
  exact all n digit

theorem isPrintable_hexDigits {width n : Nat} {c : Char} (member : c ∈ hexDigits width n) :
    isPrintable c = true := by
  induction width generalizing n with
  | zero => exact absurd member List.not_mem_nil
  | succ width ih =>
    rcases List.mem_append.mp member with front | last
    · exact ih front
    · rw [List.mem_singleton.mp last]
      exact isPrintable_hexDigit (Nat.mod_lt n (by decide))

theorem isPrintable_escapeCode {n : Nat} {c : Char} (member : c ∈ escapeCode n) : isPrintable c = true := by
  have each : ∀ (mark : Char) (width : Nat), isPrintable mark = true →
      c ∈ '\\' :: mark :: hexDigits width n → isPrintable c = true := by
    intro mark width printable inside
    rcases List.mem_cons.mp inside with rfl | behind
    · rfl
    · rcases List.mem_cons.mp behind with rfl | digit
      · exact printable
      · exact isPrintable_hexDigits digit
  unfold escapeCode at member
  split at member
  · exact each 'x' 2 rfl member
  · split at member
    · exact each 'u' 4 rfl member
    · exact each 'U' 8 rfl member

theorem isPrintable_escapeChar {quote c d : Char} (quotes : isPrintable quote = true)
    (member : d ∈ escapeChar quote c) : isPrintable d = true := by
  have pair : ∀ e : Char, isPrintable e = true → d ∈ ['\\', e] → isPrintable d = true := by
    intro e printable inside
    rw [List.mem_cons, List.mem_singleton] at inside
    rcases inside with rfl | rfl
    · rfl
    · exact printable
  unfold escapeChar at member
  split at member
  · rename_i special
    apply pair c _ member
    rcases special with rfl | rfl
    · exact quotes
    · rfl
  · split at member
    · exact pair 't' rfl member
    · split at member
      · exact pair 'n' rfl member
      · split at member
        · exact pair 'r' rfl member
        · split at member
          · rename_i printable
            rw [List.mem_singleton.mp member]
            exact printable
          · exact isPrintable_escapeCode member

theorem isPrintable_quoteFor (cs : List Char) : isPrintable (quoteFor cs) = true := by
  unfold quoteFor
  split <;> rfl

theorem visible_quotedChars (cs : List Char) : Visible (String.ofList (quotedChars cs)) := by
  have quotes := isPrintable_quoteFor cs
  rw [visible_ofList, quotedChars]
  intro d member
  rcases List.mem_append.mp member with front | last
  · rcases List.mem_cons.mp front with rfl | inside
    · exact quotes
    · obtain ⟨c, -, escaped⟩ := List.mem_flatMap.mp inside
      exact isPrintable_escapeChar quotes escaped
  · rw [List.mem_singleton.mp last]
    exact quotes

theorem isPrintable_of_isNumeralChar {c : Char} (numeral : Token.isNumeralChar c = true) :
    isPrintable c = true := by
  have range := Token.toNat_of_isNumeralChar numeral
  exact isPrintable_of_toNat (by omega) (by omega)

theorem isPrintable_toDigits {n : Nat} {c : Char} (member : c ∈ Nat.toDigits 10 n) : isPrintable c = true :=
  isPrintable_of_isNumeralChar (Token.isNumeralChar_of_isDigit (Numeral.toDigits_isDigit member))

theorem visible_toString_nat (n : Nat) : Visible (toString n) := by
  have digits : toString n = String.ofList (Nat.toDigits 10 n) := rfl
  rw [digits, visible_ofList]
  exact fun c => isPrintable_toDigits

end Text

open Text

namespace Decimal

theorem isPrintable_positional {digits : List Char} (visible : ∀ c ∈ digits, isPrintable c = true)
    {point : Int} {c : Char} (member : c ∈ positional digits point) : isPrintable c = true := by
  have zero : ∀ n, c ∈ List.replicate n '0' → isPrintable c = true := by
    intro n inside
    rw [List.eq_of_mem_replicate inside]
    rfl
  unfold positional at member
  split at member
  · simp only [List.cons_append, List.mem_cons, List.mem_append] at member
    rcases member with rfl | rfl | zeros | digit
    · rfl
    · rfl
    · exact zero _ zeros
    · exact visible c digit
  · split at member
    · simp only [List.mem_append, List.mem_cons, List.not_mem_nil, or_false] at member
      rcases member with (digit | zeros) | rfl | rfl
      · exact visible c digit
      · exact zero _ zeros
      · rfl
      · rfl
    · simp only [List.mem_append, List.mem_cons] at member
      rcases member with front | rfl | back
      · exact visible c (List.mem_of_mem_take front)
      · rfl
      · exact visible c (List.mem_of_mem_drop back)

theorem isPrintable_exponentText {e : Int} {c : Char} (member : c ∈ exponentText e) : isPrintable c = true := by
  rcases List.mem_cons.mp member with sign | digits
  · rw [sign]
    split <;> rfl
  · split at digits
    · rcases List.mem_cons.mp digits with rfl | digit
      · rfl
      · exact isPrintable_toDigits digit
    · exact isPrintable_toDigits digits

theorem isPrintable_scientific {digits : List Char} (visible : ∀ c ∈ digits, isPrintable c = true)
    {point : Int} {c : Char} (member : c ∈ scientific digits point) : isPrintable c = true := by
  rw [scientific, List.mem_append, List.mem_append, List.mem_cons] at member
  rcases member with (first | rest) | rfl | exponent
  · exact visible c (List.mem_of_mem_take first)
  · split at rest
    · exact absurd rest List.not_mem_nil
    · rcases List.mem_cons.mp rest with rfl | behind
      · rfl
      · exact visible c (List.mem_of_mem_drop behind)
  · rfl
  · exact isPrintable_exponentText exponent

theorem isPrintable_spread (d : Decimal) : ∀ c ∈ d.spread.1, isPrintable c = true := fun _ => isPrintable_toDigits

end Decimal

namespace Binary64

theorem isPrintable_signText {negative : Bool} {c : Char} (member : c ∈ signText negative) :
    isPrintable c = true := isPrintable_of_isNumeralChar (Numeral.signText_numeral member)

theorem isPrintable_textChars {x : Binary64} {c : Char} (member : c ∈ x.textChars) : isPrintable c = true := by
  cases x with
  | nan t =>
    have letters : Visible "nan" := by decide
    exact letters c member
  | infinite s =>
    have letters : Visible "inf" := by decide
    rcases List.mem_append.mp member with sign | rest
    · exact isPrintable_signText sign
    · exact letters c rest
  | finite s r =>
    have zero : Visible "0.0" := by decide
    rcases List.mem_append.mp member with sign | rest
    · exact isPrintable_signText sign
    · split at rest
      · exact zero c rest
      · exact Decimal.isPrintable_positional (Decimal.isPrintable_spread _) rest

theorem visible_text (x : Binary64) : Visible x.text := by
  rw [text, visible_ofList]
  exact fun c => isPrintable_textChars

theorem visible_display (x : Binary64) : Visible x.display := by
  rw [display, visible_ofList]
  intro c member
  cases x with
  | nan t => exact isPrintable_textChars (x := nan t) member
  | infinite s => exact isPrintable_textChars (x := infinite s) member
  | finite s r =>
    simp only [displayChars] at member
    split at member
    · exact isPrintable_textChars member
    · rcases List.mem_append.mp member with sign | rest
      · exact isPrintable_signText sign
      · exact Decimal.isPrintable_scientific (Decimal.isPrintable_spread _) rest

end Binary64

namespace Number

theorem visible_intText (n : Int) : Visible (intText n) := by
  rw [intText, visible_ofList]
  exact fun c member => isPrintable_of_isNumeralChar (Numeral.intText_numeral member)

theorem visible_text (n : Number) : Visible n.text := by
  cases n with
  | int k => exact visible_intText k
  | float x => exact x.visible_text
  | bool b => cases b <;> decide

theorem visible_display (n : Number) : Visible n.display := by
  cases n with
  | int k => exact visible_intText k
  | float x => exact x.visible_display
  | bool b => cases b <;> decide

end Number

theorem Text.isPrintable_of_isSymbolInner {c : Char} (inner : Token.isSymbolInner c = true) :
    isPrintable c = true := by
  rcases Bool.or_eq_true_iff.mp inner with letter | digit
  · have range := Scanner.toNat_of_isSymbolStart letter
    exact isPrintable_of_toNat (by omega) (by omega)
  · exact isPrintable_of_isNumeralChar (Token.isNumeralChar_of_isDigit digit)

theorem Scanner.visible_of_isSymbol {name : String} (symbol : isSymbol name = true) : Visible name := by
  unfold isSymbol at symbol
  split at symbol
  · contradiction
  · rename_i c cs spelled
    rw [Bool.and_eq_true, List.all_eq_true] at symbol
    rw [Visible, spelled]
    intro d member
    rcases List.mem_cons.mp member with rfl | inside
    · exact isPrintable_of_isSymbolInner (Bool.or_eq_true_iff.mpr (.inl symbol.1))
    · exact isPrintable_of_isSymbolInner (symbol.2 d inside)

end LambdaCalc
