import LambdaCalc.Proofs.Cursor
import LambdaCalc.Proofs.Numeral.ReadBack

namespace LambdaCalc.Scanner

open Token

variable {c : Char} {cs rest : List Char} {lexemes : List Lexeme}

def run (s : Scanner) (cs : List Char) : Except ReadError Scanner := cs.foldlM feed s

theorem run_nil (s : Scanner) : run s [] = .ok s := rfl

theorem run_cons (s : Scanner) (c : Char) (cs : List Char) : run s (c :: cs) = (s.feed c).bind fun t => run t cs :=
  rfl

theorem scan_eq_run (source : String) : Token.scan source = (run {} source.toList).bind finish := by
  rw [Token.scan, Cursor.walk_ofList, run]
  cases source.toList.foldlM feed {} <;> rfl

/-- From every state with no token under way, the text adds exactly the lexemes. -/
def Scans (cs : List Char) (lexemes : List Lexeme) : Prop :=
  ∀ pos done, ∃ tokens, (run ⟨pos, done, .none⟩ cs).bind finish = .ok tokens ∧
    tokens.map Token.lexeme = done.reverse.map Token.lexeme ++ lexemes

/-- Whatever token stands before the text is complete. -/
def Separates : List Char → Prop
  | [] => True
  | c :: _ => isNumeralChar c = false ∧ isSymbolInner c = false

/-- The text adds the lexemes before any text that is separated from it. -/
def Spells (text : String) (lexemes : List Lexeme) : Prop :=
  ∀ rest following, Separates rest → Scans rest following →
    Scans (text.toList ++ rest) (lexemes ++ following)

theorem toNat_of_isSymbolStart (start : isSymbolStart c = true) : 65 ≤ c.toNat ∧ c.toNat ≤ 122 := by
  rw [isSymbolStart, Bool.or_eq_true, beq_iff_eq] at start
  rcases start with letter | rfl
  · rcases Bool.or_eq_true_iff.mp (letter : (c.isUpper || c.isLower) = true) with upper | lower
    · have bounds : 65 ≤ c.toNat ∧ c.toNat ≤ 90 := of_decide_eq_true upper
      omega
    · have bounds := Bool.and_eq_true_iff.mp lower
      have low : 97 ≤ c.toNat := of_decide_eq_true bounds.1
      have high : c.toNat ≤ 122 := of_decide_eq_true bounds.2
      omega
  · decide

theorem isNumeralChar_of_isSymbolStart (start : isSymbolStart c = true) : isNumeralChar c = false := by
  have letter := toNat_of_isSymbolStart start
  rw [← Bool.not_eq_true]
  intro numeral
  have range := toNat_of_isNumeralChar numeral
  omega

theorem isBlank_of_isSymbolStart (start : isSymbolStart c = true) : Text.isBlank c = false := by
  have letter := toNat_of_isSymbolStart start
  simp only [Text.isBlank, Bool.or_eq_false_iff, Bool.and_eq_false_iff, decide_eq_false_iff_not,
    beq_eq_false_iff_ne]
  omega

theorem separates_delimiter (delimiter : isDelimiter c = true) (rest : List Char) :
    Separates (c :: rest) := by
  simp only [isDelimiter, Bool.or_eq_true, beq_iff_eq] at delimiter
  rcases delimiter with ((rfl | rfl) | rfl) | rfl <;> exact ⟨rfl, rfl⟩

theorem separates_space (rest : List Char) : Separates (' ' :: rest) := ⟨rfl, rfl⟩

theorem flush_pending {s t : Scanner} (flushed : s.flush = .ok t) : t.pending = .none := by
  unfold flush at flushed
  split at flushed
  · rename_i idle
    cases flushed
    exact idle
  · dsimp only at flushed
    split at flushed
    · cases flushed
      rfl
    · contradiction
  · cases flushed
    rfl

theorem flush_of_pending {s : Scanner} (idle : s.pending = .none) : s.flush = .ok s := by
  simp only [flush, idle]

theorem feed_of_pending {s : Scanner} (idle : s.pending = .none) : s.feed c = s.begin c := by
  simp only [feed, idle]

theorem feed_separating {s t : Scanner} (flushed : s.flush = .ok t) (numeral : isNumeralChar c = false)
    (inner : isSymbolInner c = false) : s.feed c = t.feed c := by
  rw [feed_of_pending (flush_pending flushed)]
  unfold feed
  split
  · rename_i idle
    rw [flush_of_pending idle] at flushed
    cases flushed
    rfl
  · simp only [numeral, Bool.false_eq_true, ↓reduceIte, flushed, Except.bind]
  · simp only [inner, Bool.false_eq_true, ↓reduceIte, flushed, Except.bind]

theorem run_separated {s t : Scanner} (flushed : s.flush = .ok t) (separates : Separates rest) :
    (run s rest).bind finish = (run t rest).bind finish := by
  cases rest with
  | nil =>
    -- The end of the text completes the token as well.
    have own := flush_of_pending (flush_pending flushed)
    simp only [run_nil, Except.bind, finish, flushed, own]
  | cons c rest =>
    simp only [run_cons, feed_separating flushed separates.1 separates.2]

theorem scans_nil : Scans [] [] := by
  intro pos done
  exact ⟨done.reverse, rfl, by simp⟩

theorem scan_of_spells {source : String} (spells : Spells source lexemes) :
    ∃ tokens, Token.scan source = .ok tokens ∧ tokens.map Token.lexeme = lexemes := by
  have scans := spells [] [] trivial scans_nil
  rw [List.append_nil, List.append_nil] at scans
  rw [scan_eq_run]
  exact scans 0 []

theorem scans_blank (blank : Text.isBlank c = true) (scans : Scans rest lexemes) :
    Scans (c :: rest) lexemes := by
  intro pos done
  have step : feed ⟨pos, done, .none⟩ c = .ok ⟨pos + 1, done, .none⟩ := by
    simp only [feed, begin, blank, ↓reduceIte]
  simpa only [run_cons, run_nil, step, Except.bind] using scans (pos + 1) done

theorem scans_delimiter (delimiter : isDelimiter c = true) (scans : Scans rest lexemes) :
    Scans (c :: rest) (.delimiter c :: lexemes) := by
  intro pos done
  have step : feed ⟨pos, done, .none⟩ c = .ok ⟨pos + 1, ⟨.delimiter c, pos⟩ :: done, .none⟩ := by
    simp only [isDelimiter, Bool.or_eq_true, beq_iff_eq] at delimiter
    rcases delimiter with ((rfl | rfl) | rfl) | rfl <;> rfl
  obtain ⟨tokens, ran, spelled⟩ := scans (pos + 1) (⟨.delimiter c, pos⟩ :: done)
  refine ⟨tokens, ?_, ?_⟩
  · simpa only [run_cons, run_nil, step, Except.bind] using ran
  · simpa using spelled

section Words

/- A word of the class `p`: what the scanner keeps of it is `state`, where it starts and its characters
so far, the last one first. -/
variable {p : Char → Bool} {state : Nat → List Char → Pending}

theorem run_word {done : List Token} {start : Nat}
    (grows : ∀ pos before c, p c = true →
      feed ⟨pos, done, state start before⟩ c = .ok ⟨pos + 1, done, state start (c :: before)⟩)
    (word : ∀ c ∈ cs, p c = true) (pos : Nat) (before : List Char) :
    run ⟨pos, done, state start before⟩ (cs ++ rest) =
      run ⟨pos + cs.length, done, state start (cs.reverse ++ before)⟩ rest := by
  induction cs generalizing pos before with
  | nil => rfl
  | cons c cs ih =>
    have tail : ∀ d ∈ cs, p d = true := fun d member => word d (List.mem_cons_of_mem c member)
    rw [List.cons_append, run_cons, grows pos before c (word c List.mem_cons_self), Except.bind, ih tail,
      List.length_cons, List.reverse_cons, List.append_assoc, List.singleton_append, Nat.add_assoc,
      Nat.add_comm 1]

theorem scans_word {lexeme : Lexeme}
    (begins : ∀ pos done, feed ⟨pos, done, .none⟩ c = .ok ⟨pos + 1, done, state pos [c]⟩)
    (grows : ∀ pos done start before c, p c = true →
      feed ⟨pos, done, state start before⟩ c = .ok ⟨pos + 1, done, state start (c :: before)⟩)
    (flushes : ∀ pos done start, flush ⟨pos, done, state start (cs.reverse ++ [c])⟩ =
      .ok ⟨pos, ⟨lexeme, start⟩ :: done, .none⟩)
    (word : ∀ c ∈ cs, p c = true) (separates : Separates rest) (scans : Scans rest lexemes) :
    Scans (c :: cs ++ rest) (lexeme :: lexemes) := by
  intro pos done
  obtain ⟨tokens, ran, spelled⟩ := scans (pos + 1 + cs.length) (⟨lexeme, pos⟩ :: done)
  refine ⟨tokens, ?_, ?_⟩
  · rw [List.cons_append, run_cons, begins, Except.bind, run_word (fun pos before c => grows pos done _ before c) word,
      run_separated (flushes _ _ _) separates]
    exact ran
  · simpa using spelled

end Words

/-- The names that the scanner takes as one symbol. -/
def isSymbol (name : String) : Bool :=
  match name.toList with
  | [] => false
  | c :: cs => isSymbolStart c && cs.all isSymbolInner

theorem spells_symbol {name : String} (symbol : isSymbol name = true) : Spells name [.symbol name] := by
  intro rest following separates scans
  unfold isSymbol at symbol
  split at symbol
  · contradiction
  · rename_i c cs spelled
    rw [Bool.and_eq_true, List.all_eq_true] at symbol
    obtain ⟨start, word⟩ := symbol
    have whole : String.ofList (c :: cs) = name := by rw [← spelled, String.ofList_toList]
    rw [spelled]
    apply scans_word _ _ _ word separates scans
    · exact Pending.symbol
    · intro pos done
      simp only [feed, begin, isBlank_of_isSymbolStart start, isNumeralChar_of_isSymbolStart start, start,
        Bool.false_eq_true, ↓reduceIte]
    · intro pos done start before c inner
      simp only [feed, inner, ↓reduceIte]
    · intro pos done start
      have reversed : (cs.reverse ++ [c]).reverse = c :: cs := by simp
      simp only [flush, reversed, whole]

theorem spells_number {n : Number} (numeral : n.hasNumeral = true) : Spells n.text [.number n.text] := by
  intro rest following separates scans
  have word : ∀ c ∈ n.text.toList, isNumeralChar c = true := fun c =>
    Number.isNumeralChar_of_mem_text numeral
  have read := Number.read_text numeral
  obtain ⟨c, cs, spelled⟩ := List.exists_cons_of_ne_nil (Number.text_ne_nil numeral)
  have whole : String.ofList (c :: cs) = n.text := by rw [← spelled, String.ofList_toList]
  rw [spelled] at word ⊢
  have first : isNumeralChar c = true := word c List.mem_cons_self
  apply scans_word _ _ _ (fun d member => word d (List.mem_cons_of_mem c member)) separates scans
  · exact Pending.number
  · intro pos done
    simp only [feed, begin, isBlank_of_isNumeralChar first, first, Bool.false_eq_true, ↓reduceIte]
  · intro pos done start before c digit
    simp only [feed, digit, ↓reduceIte]
  · intro pos done start
    have reversed : (cs.reverse ++ [c]).reverse = c :: cs := by simp
    simp only [flush, reversed, whole, Numeral.readAt_eq_ok_iff.mpr read]

def Holds (s : Scanner) : Prop := s.done ≠ [] ∨ s.pending ≠ .none

variable {s t : Scanner}

theorem Holds.flush (holds : s.Holds) (flushed : s.flush = .ok t) : t.done ≠ [] := by
  unfold Scanner.flush at flushed
  split at flushed
  · rename_i idle
    cases flushed
    exact holds.resolve_right fun busy => busy idle
  · dsimp only at flushed
    split at flushed
    · cases flushed
      exact List.cons_ne_nil _ _
    · contradiction
  · cases flushed
    exact List.cons_ne_nil _ _

theorem holds_of_begin (began : s.begin c = .ok t) (seen : s.done ≠ [] ∨ Text.isBlank c = false) :
    t.Holds := by
  unfold begin at began
  split at began
  · rename_i blank
    cases began
    exact .inl (seen.resolve_right (by simp [blank]))
  · split at began
    · cases began
      exact .inr (by simp)
    · split at began
      · cases began
        exact .inr (by simp)
      · split at began
        · cases began
          exact .inl (List.cons_ne_nil _ _)
        · contradiction

theorem holds_of_flush_begin (busy : s.pending ≠ .none) (fed : s.flush.bind (·.begin c) = .ok t) :
    t.Holds := by
  cases flushed : s.flush with
  | error e =>
    rw [flushed] at fed
    cases fed
  | ok u =>
    rw [flushed] at fed
    exact holds_of_begin fed (.inl (Holds.flush (.inr busy) flushed))

theorem holds_of_feed (fed : s.feed c = .ok t) (seen : s.Holds ∨ Text.isBlank c = false) : t.Holds := by
  unfold feed at fed
  split at fed
  · rename_i idle
    exact holds_of_begin fed (seen.imp_left fun holds => holds.resolve_right fun busy => busy idle)
  · rename_i busy
    split at fed
    · cases fed
      exact .inr (by simp)
    · exact holds_of_flush_begin (by simp [busy]) fed
  · rename_i busy
    split at fed
    · cases fed
      exact .inr (by simp)
    · exact holds_of_flush_begin (by simp [busy]) fed

theorem holds_of_run (ran : run s cs = .ok t) (seen : s.Holds ∨ ∃ c ∈ cs, Text.isBlank c = false) :
    t.Holds := by
  induction cs generalizing s with
  | nil =>
    cases ran
    rcases seen with holds | ⟨c, member, -⟩
    · exact holds
    · exact absurd member List.not_mem_nil
  | cons c cs ih =>
    cases fed : s.feed c with
    | error e =>
      rw [run_cons, fed] at ran
      cases ran
    | ok u =>
      rw [run_cons, fed] at ran
      apply ih ran
      rcases seen with holds | ⟨d, member, visible⟩
      · exact .inl (holds_of_feed fed (.inl holds))
      · rcases List.mem_cons.mp member with rfl | later
        · exact .inl (holds_of_feed fed (.inr visible))
        · exact .inr ⟨d, later, visible⟩

theorem scans_of_blank (blank : ∀ c ∈ cs, Text.isBlank c = true) : Scans cs [] := by
  induction cs with
  | nil => exact scans_nil
  | cons c cs ih =>
    have first := blank c List.mem_cons_self
    exact scans_blank first (ih fun d member => blank d (List.mem_cons_of_mem c member))

theorem scan_eq_nil_iff {source : String} :
    Token.scan source = .ok [] ↔ ∀ c ∈ source.toList, Text.isBlank c = true := by
  constructor
  · intro scanned c member
    rw [← Bool.not_eq_false]
    intro visible
    rw [scan_eq_run] at scanned
    cases ran : run {} source.toList with
    | error e =>
      rw [ran] at scanned
      cases scanned
    | ok t =>
      have holds := holds_of_run ran (.inr ⟨c, member, visible⟩)
      rw [ran] at scanned
      simp only [Except.bind, finish] at scanned
      cases flushed : t.flush with
      | error e =>
        rw [flushed] at scanned
        cases scanned
      | ok u =>
        rw [flushed] at scanned
        injection scanned with tokens
        exact holds.flush flushed (List.reverse_eq_nil_iff.mp tokens)
  · intro blank
    obtain ⟨tokens, scanned, spelled⟩ := scans_of_blank blank 0 []
    cases List.map_eq_nil_iff.mp spelled
    rw [scan_eq_run]
    exact scanned

end LambdaCalc.Scanner
