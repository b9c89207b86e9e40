import LambdaCalc.Binary64
import LambdaCalc.Text.Quoted

namespace LambdaCalc.Text

attribute [local instance (high)] instPowNat

variable {α : Type}

/-- If a text begins with what is written for `a` and also with what is written for `b`, these are the same. -/
def Told (write : α → List Char) (a b : α) : Prop :=
  ∀ rest other, write a ++ rest = write b ++ other → a = b ∧ rest = other

section

variable {write : α → List Char} {stop : List Char} {rest other : List Char}

theorem told_flatMap (apart : ∀ x rest other, write x ++ rest ≠ stop ++ other) {xs ys : List α}
    (each : ∀ a ∈ xs, ∀ b ∈ ys, Told write a b)
    (same : xs.flatMap write ++ (stop ++ rest) = ys.flatMap write ++ (stop ++ other)) : xs = ys ∧ rest = other := by
  -- When only one of the lists has ended, the text goes on with the stop and with an item.
  induction xs generalizing ys with
  | nil =>
    cases ys with
    | nil => exact ⟨rfl, List.append_cancel_left same⟩
    | cons y ys =>
      rw [List.flatMap_nil, List.nil_append, List.flatMap_cons, List.append_assoc] at same
      exact absurd same.symm (apart _ _ _)
  | cons x xs ih =>
    cases ys with
    | nil =>
      rw [List.flatMap_nil, List.nil_append, List.flatMap_cons, List.append_assoc] at same
      exact absurd same (apart _ _ _)
    | cons y ys =>
      rw [List.flatMap_cons, List.flatMap_cons, List.append_assoc, List.append_assoc] at same
      obtain ⟨rfl, behind⟩ := each x List.mem_cons_self y List.mem_cons_self _ _ same
      obtain ⟨rfl, ends⟩ := ih (fun a inside b among =>
        each a (List.mem_cons_of_mem x inside) b (List.mem_cons_of_mem x among)) behind
      exact ⟨rfl, ends⟩

theorem intercalate_cons_eq_flatMap (separator first : List Char) (others : List (List Char)) :
    separator.intercalate (first :: others) = first ++ others.flatMap (separator ++ ·) := by
  induction others generalizing first with
  | nil => rw [List.intercalate_singleton, List.flatMap_nil, List.append_nil]
  | cons next others ih =>
    rw [List.intercalate_cons_cons, ih, List.flatMap_cons, List.append_assoc, List.append_assoc]

theorem told_intercalate {separator : List Char} (apart : ∀ rest other, separator ++ rest ≠ stop ++ other) {x y : α}
    {xs ys : List α} (each : ∀ a ∈ x :: xs, ∀ b ∈ y :: ys, Told write a b)
    (same : separator.intercalate ((x :: xs).map write) ++ (stop ++ rest) =
      separator.intercalate ((y :: ys).map write) ++ (stop ++ other)) :
    x :: xs = y :: ys ∧ rest = other := by
  simp only [List.map_cons, intercalate_cons_eq_flatMap, List.flatMap_map, List.append_assoc] at same
  obtain ⟨rfl, behind⟩ := each x List.mem_cons_self y List.mem_cons_self _ _ same
  have following : ∀ a ∈ xs, ∀ b ∈ ys, Told (fun item => separator ++ write item) a b := by
    intro a inside b among rest other same
    rw [List.append_assoc, List.append_assoc] at same
    exact each a (List.mem_cons_of_mem x inside) b (List.mem_cons_of_mem x among) _ _ (List.append_cancel_left same)
  obtain ⟨rfl, ends⟩ := told_flatMap (fun item rest other => by rw [List.append_assoc]; exact apart _ _) following behind
  exact ⟨rfl, ends⟩

theorem append_cons_inj {c : Char} {cs ds : List Char} (first : c ∉ cs) (second : c ∉ ds)
    (same : cs ++ c :: rest = ds ++ c :: other) : cs = ds ∧ rest = other := by
  rcases List.append_eq_append_iff.mp same with ⟨gap, rfl, behind⟩ | ⟨gap, rfl, behind⟩
  · cases gap with
    | nil => exact ⟨(List.append_nil cs).symm, (List.cons.inj behind).2⟩
    | cons d gap =>
      obtain ⟨rfl, -⟩ := List.cons.inj behind
      exact absurd (List.mem_append_right cs List.mem_cons_self) second
  · cases gap with
    | nil => exact ⟨List.append_nil ds, (List.cons.inj behind).2.symm⟩
    | cons d gap =>
      obtain ⟨rfl, -⟩ := List.cons.inj behind
      exact absurd (List.mem_append_right ds List.mem_cons_self) first

end

theorem hexDigit_injective {m n : Nat} (first : m < 16) (second : n < 16) (same : hexDigit m = hexDigit n) : m = n := by
  have all : ∀ m < 16, ∀ n < 16, hexDigit m = hexDigit n → m = n := by decide
  exact all m first n second same

theorem length_hexDigits (width n : Nat) : (hexDigits width n).length = width := by
  induction width generalizing n with
  | zero => rfl
  | succ width ih => rw [hexDigits, List.length_append, ih, List.length_singleton]

theorem hexDigits_injective {width m n : Nat} (first : m < 16 ^ width) (second : n < 16 ^ width)
    (same : hexDigits width m = hexDigits width n) : m = n := by
  induction width generalizing m n with
  | zero => omega
  | succ width ih =>
    obtain ⟨front, last⟩ := List.append_inj' same rfl
    have low := hexDigit_injective (Nat.mod_lt m (by decide)) (Nat.mod_lt n (by decide)) (List.cons.inj last).1
    have high := ih (Nat.div_lt_of_lt_mul (by omega)) (Nat.div_lt_of_lt_mul (by omega)) front
    omega

def escapeWidth (mark : Char) : Nat :=
  if mark = 'x' then 2 else if mark = 'u' then 4 else if mark = 'U' then 8 else 0

def escapedChar (mark : Char) : Char :=
  if mark = 't' then '\t' else if mark = 'n' then '\n' else if mark = 'r' then '\r' else mark

/-- A mark alone stands for one character, and a mark with digits for the character of that number. -/
inductive Escaped (c : Char) : List Char → Prop where
  | mark {mark : Char} (width : escapeWidth mark = 0) (stands : escapedChar mark = c) : Escaped c ['\\', mark]
  | code {mark : Char} (width : escapeWidth mark ≠ 0) (small : c.toNat < 16 ^ escapeWidth mark) :
      Escaped c ('\\' :: mark :: hexDigits (escapeWidth mark) c.toNat)

theorem escaped_escapeCode (c : Char) : Escaped c (escapeCode c.toNat) := by
  have valid : c.toNat < 16 ^ (8 : Nat) := by
    rcases c.valid with low | high
    · exact Nat.lt_trans low (by decide)
    · exact Nat.lt_trans high.2 (by decide)
  unfold escapeCode
  split
  · rename_i byte
    exact @Escaped.code c 'x' (by decide) byte
  · split
    · rename_i short
      exact @Escaped.code c 'u' (by decide) short
    · exact @Escaped.code c 'U' (by decide) valid

def IsQuote (q : Char) : Prop := q = '\'' ∨ q = '"'

theorem isQuote_quoteFor (cs : List Char) : IsQuote (quoteFor cs) := by
  unfold quoteFor
  split
  · exact .inr rfl
  · exact .inl rfl

theorem escapeChar_cases {quote : Char} (quotes : IsQuote quote) (c : Char) :
    (escapeChar quote c = [c] ∧ c ≠ quote ∧ c ≠ '\\') ∨ Escaped c (escapeChar quote c) := by
  unfold escapeChar
  split
  · rename_i special
    right
    rcases special with rfl | rfl
    · rcases quotes with rfl | rfl <;> exact .mark (by decide) (by decide)
    · exact .mark (by decide) (by decide)
  · rename_i ordinary
    split
    · rename_i tab
      exact .inr (@Escaped.mark c 't' (by decide) tab.symm)
    · split
      · rename_i newline
        exact .inr (@Escaped.mark c 'n' (by decide) newline.symm)
      · split
        · rename_i back
          exact .inr (@Escaped.mark c 'r' (by decide) back.symm)
        · split
          · exact .inl ⟨rfl, fun same => ordinary (.inl same), fun same => ordinary (.inr same)⟩
          · exact .inr (escaped_escapeCode c)

theorem Escaped.told {c d : Char} {cs ds rest other : List Char} (first : Escaped c cs) (second : Escaped d ds)
    (same : cs ++ rest = ds ++ other) : c = d ∧ rest = other := by
  -- The marks are the same letter, so either both have digits, and equally many, or neither has.
  cases first with
  | mark width stands =>
    cases second with
    | mark _ standsToo =>
      obtain ⟨rfl, ends⟩ := List.cons.inj (List.cons.inj same).2
      exact ⟨stands.symm.trans standsToo, ends⟩
    | code widthToo _ =>
      obtain ⟨rfl, -⟩ := List.cons.inj (List.cons.inj same).2
      exact absurd width widthToo
  | code width small =>
    cases second with
    | mark widthToo _ =>
      obtain ⟨rfl, -⟩ := List.cons.inj (List.cons.inj same).2
      exact absurd widthToo width
    | code _ smallToo =>
      obtain ⟨rfl, digits⟩ := List.cons.inj (List.cons.inj same).2
      obtain ⟨codes, ends⟩ := List.append_inj digits (by rw [length_hexDigits, length_hexDigits])
      exact ⟨Char.toNat_inj.mp (hexDigits_injective small smallToo codes), ends⟩

theorem Escaped.head {c : Char} {cs : List Char} (escaped : Escaped c cs) : ∃ tail, cs = '\\' :: tail := by
  cases escaped with
  | mark width stands => exact ⟨_, rfl⟩
  | code width small => exact ⟨_, rfl⟩

theorem told_escapeChar {quote : Char} (quotes : IsQuote quote) (c d : Char) : Told (escapeChar quote) c d := by
  intro rest other same
  rcases escapeChar_cases quotes c with ⟨plain, -, mark⟩ | first
  · rcases escapeChar_cases quotes d with ⟨plainToo, -, -⟩ | second
    · rw [plain, plainToo] at same
      exact List.cons.inj same
    · obtain ⟨tail, escaped⟩ := second.head
      rw [plain, escaped] at same
      exact absurd (List.cons.inj same).1 mark
  · rcases escapeChar_cases quotes d with ⟨plain, -, mark⟩ | second
    · obtain ⟨tail, escaped⟩ := first.head
      rw [plain, escaped] at same
      exact absurd (List.cons.inj same).1.symm mark
    · exact first.told second same

theorem escapeChar_ne_quote {quote : Char} (quotes : IsQuote quote) (c : Char) (rest other : List Char) :
    escapeChar quote c ++ rest ≠ [quote] ++ other := by
  intro same
  rcases escapeChar_cases quotes c with ⟨plain, differs, -⟩ | escaped
  · rw [plain] at same
    exact differs (List.cons.inj same).1
  · obtain ⟨tail, begins⟩ := escaped.head
    rw [begins] at same
    have clash := (List.cons.inj same).1
    rcases quotes with rfl | rfl <;> cases clash

theorem told_quotedChars (cs ds : List Char) : Told quotedChars cs ds := by
  intro rest other same
  simp only [quotedChars, List.cons_append, List.append_assoc] at same
  -- Each side chooses its quote by its own characters; the first character shows that they chose the same.
  obtain ⟨quote, inside⟩ := List.cons.inj same
  have quotes := isQuote_quoteFor ds
  rw [quote] at inside
  exact told_flatMap (escapeChar_ne_quote quotes) (fun c _ d _ => told_escapeChar quotes c d) inside

theorem told_quoted (s t : String) : Told (fun name => (quoted name).toList) s t := by
  intro rest other same
  simp only [quoted, String.toList_ofList] at same
  obtain ⟨letters, ends⟩ := told_quotedChars s.toList t.toList rest other same
  exact ⟨String.toList_inj.mp letters, ends⟩

theorem toList_bracketed (names : List String) :
    (bracketed (names.map quoted)).toList =
      '[' :: ([',', ' '].intercalate (names.map fun name => (quoted name).toList) ++ [']']) := by
  rw [bracketed, String.toList_append, String.toList_append, String.toList_intercalate, List.map_map]
  rfl

theorem intercalate_ne_stop (name : String) (names : List String) (rest other : List Char) :
    [',', ' '].intercalate ((name :: names).map fun name => (quoted name).toList) ++ rest ≠ ']' :: other := by
  rw [List.map_cons, intercalate_cons_eq_flatMap, quoted, String.toList_ofList, quotedChars]
  intro same
  have clash := (List.cons.inj same).1
  have quotes := isQuote_quoteFor name.toList
  rw [clash] at quotes
  rcases quotes with wrong | wrong <;> cases wrong

theorem told_bracketed (names others : List String) :
    Told (fun names => (bracketed (names.map quoted)).toList) names others := by
  intro rest other same
  simp only [toList_bracketed, List.cons_append, List.append_assoc] at same
  have inside := (List.cons.inj same).2
  cases names with
  | nil =>
    cases others with
    | nil => exact ⟨rfl, (List.cons.inj inside).2⟩
    | cons name others => exact absurd inside.symm (intercalate_ne_stop name others _ _)
  | cons name names =>
    cases others with
    | nil => exact absurd inside (intercalate_ne_stop name names _ _)
    | cons next others =>
      have apart : ∀ rest other : List Char, [',', ' '] ++ rest ≠ [']'] ++ other := by
        intro rest other clash
        cases (List.cons.inj clash).1
      exact told_intercalate apart (fun s _ t _ => told_quoted s t) inside

end LambdaCalc.Text
