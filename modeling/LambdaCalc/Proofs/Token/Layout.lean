import LambdaCalc.Proofs.Token.Scanning

namespace LambdaCalc

open Scanner Token

/-- The text does not start with a character of the class `p`. -/
def Stops (p : Char → Bool) (rest : List Char) : Prop := ∀ c ∈ rest.head?, p c = false

theorem stops_dropWhile (p : Char → Bool) (cs : List Char) : Stops p (cs.dropWhile p) := by
  intro c first
  have stop := List.head?_dropWhile_not p cs
  rw [Option.mem_def.mp first] at stop
  exact stop

namespace Lexeme

/-- A numeral that can be read, a symbol, or a delimiter. -/
def Valid : Lexeme → Prop
  | number text => (∀ c ∈ text.toList, isNumeralChar c = true) ∧ ∃ n, Numeral.read text = .ok n
  | symbol name => isSymbol name = true
  | delimiter char => isDelimiter char = true

/-- Nothing at the front of the text belongs to the lexeme before it. -/
def StopsAt : Lexeme → List Char → Prop
  | number _ => Stops isNumeralChar
  | symbol _ => Stops isSymbolInner
  | delimiter _ => fun _ => True

theorem length_text (lexeme : Lexeme) : lexeme.text.toList.length = lexeme.width := by
  cases lexeme with
  | number text => exact String.length_toList
  | symbol name => exact String.length_toList
  | delimiter char => simp only [text, width, String.toList_singleton, List.length_singleton]

theorem Valid.width_pos {lexeme : Lexeme} (valid : lexeme.Valid) : 0 < lexeme.width := by
  cases lexeme with
  | number text =>
    obtain ⟨-, n, read⟩ := valid
    rw [width, Nat.pos_iff_ne_zero, Ne, String.length_eq_zero_iff]
    rintro rfl
    have refused : Numeral.read "" = .error (.malformed "") := rfl
    rw [refused] at read
    cases read
  | symbol name =>
    rw [width, Nat.pos_iff_ne_zero, Ne, String.length_eq_zero_iff]
    rintro rfl
    cases valid
  | delimiter char => exact Nat.one_pos

end Lexeme

/-- `Layout pos cs tokens stop rest`: from the offset `pos` the text `cs` lays out the tokens, up to the
offset `stop`, from where the rest follows. -/
inductive Layout : Nat → List Char → List Token → Nat → List Char → Prop where
  | done {pos : Nat} {rest : List Char} : Layout pos rest [] pos rest
  | blank {pos stop : Nat} {c : Char} {cs rest : List Char} {tokens : List Token}
      (blank : Text.isBlank c = true) (later : Layout (pos + 1) cs tokens stop rest) :
      Layout pos (c :: cs) tokens stop rest
  | token {t : Token} {stop : Nat} {cs rest : List Char} {tokens : List Token}
      (valid : t.lexeme.Valid) (ends : t.lexeme.StopsAt cs) (later : Layout t.stop cs tokens stop rest) :
      Layout t.pos (t.lexeme.text.toList ++ cs) (t :: tokens) stop rest

namespace Layout

variable {pos stop : Nat} {cs rest : List Char} {tokens : List Token} {t : Token}

theorem valid (layout : Layout pos cs tokens stop rest) (member : t ∈ tokens) : t.lexeme.Valid := by
  induction layout with
  | done => exact absurd member List.not_mem_nil
  | blank blank later ih => exact ih member
  | token valid ends later ih =>
    rcases List.mem_cons.mp member with rfl | behind
    · exact valid
    · exact ih behind

theorem split (layout : Layout pos cs tokens stop rest) :
    ∃ front, cs = front ++ rest ∧ pos + front.length = stop := by
  induction layout with
  | done => exact ⟨[], rfl, rfl⟩
  | @blank pos stop c cs rest tokens blank later ih =>
    obtain ⟨front, rfl, length⟩ := ih
    refine ⟨c :: front, rfl, ?_⟩
    rw [List.length_cons]
    omega
  | @token t stop cs rest tokens valid ends later ih =>
    obtain ⟨front, rfl, length⟩ := ih
    refine ⟨t.lexeme.text.toList ++ front, by rw [List.append_assoc], ?_⟩
    rw [List.length_append, Lexeme.length_text, ← length, Token.stop, Nat.add_assoc]

theorem le (layout : Layout pos cs tokens stop rest) : pos ≤ stop := by
  obtain ⟨front, -, length⟩ := layout.split
  omega

theorem stands (layout : Layout pos cs tokens stop rest) (member : t ∈ tokens) :
    t.stop ≤ stop ∧ ∃ before after, cs = before ++ t.lexeme.text.toList ++ after ∧
      pos + before.length = t.pos := by
  induction layout with
  | done => exact absurd member List.not_mem_nil
  | @blank pos stop c cs rest tokens blank later ih =>
    obtain ⟨inside, before, after, rfl, length⟩ := ih member
    refine ⟨inside, c :: before, after, rfl, ?_⟩
    rw [List.length_cons]
    omega
  | @token u stop cs rest tokens valid ends later ih =>
    rcases List.mem_cons.mp member with rfl | behind
    · exact ⟨later.le, [], cs, rfl, rfl⟩
    · obtain ⟨inside, before, after, rfl, length⟩ := ih behind
      refine ⟨inside, u.lexeme.text.toList ++ before, after, by simp only [List.append_assoc], ?_⟩
      rw [List.length_append, Lexeme.length_text, ← length, Token.stop, Nat.add_assoc]

theorem ordered (layout : Layout pos cs tokens stop rest) :
    tokens.Pairwise fun t u => t.stop ≤ u.pos := by
  induction layout with
  | done => exact List.Pairwise.nil
  | blank blank later ih => exact ih
  | token valid ends later ih =>
    refine List.pairwise_cons.mpr ⟨fun u member => ?_, ih⟩
    obtain ⟨-, before, -, -, length⟩ := later.stands member
    omega

theorem pos_lt {front between back : List Token} {u : Token}
    (layout : Layout pos cs (front ++ t :: (between ++ u :: back)) stop rest) : t.pos < u.pos := by
  have pairs := (List.pairwise_append.mp layout.ordered).2.1
  have apart : t.stop ≤ u.pos :=
    List.rel_of_pairwise_cons pairs (List.mem_append_right between List.mem_cons_self)
  have width := (layout.valid (t := t) (by simp)).width_pos
  rw [Token.stop] at apart
  omega

theorem front_eq {front front' back back' : List Token} {u : Token}
    (layout : Layout pos cs (front ++ t :: back) stop rest) (again : front ++ t :: back = front' ++ u :: back')
    (same : t.pos = u.pos) : front = front' := by
  rcases List.append_eq_append_iff.mp again with ⟨between, rfl, split⟩ | ⟨between, rfl, split⟩
  · cases between with
    | nil => rw [List.append_nil]
    | cons v between =>
      injection split with first behind
      rw [behind] at layout
      have before := layout.pos_lt
      omega
  · cases between with
    | nil => rw [List.append_nil]
    | cons v between =>
      injection split with first behind
      rw [again, behind] at layout
      have before := layout.pos_lt
      omega

end Layout

/-- What a scanner refuses at the front of the text that starts at the offset. -/
inductive Offends (pos : Nat) : List Char → ReadError → Prop where
  | char {c : Char} {rest : List Char} (blank : Text.isBlank c = false) (numeral : isNumeralChar c = false)
      (symbol : isSymbolStart c = false) (delimiter : isDelimiter c = false) :
      Offends pos (c :: rest) ⟨.unexpectedChar c, some pos⟩
  | numeral {word rest : List Char} {e : Numeral.Error} (nonempty : word ≠ [])
      (digits : ∀ c ∈ word, isNumeralChar c = true)
      (ends : Stops isNumeralChar rest)
      (refused : Numeral.read (String.ofList word) = .error e) :
      Offends pos (word ++ rest) ⟨.numeral e, some pos⟩

theorem Offends.position {pos : Nat} {rest : List Char} {err : ReadError} (offends : Offends pos rest err) :
    err.position = some pos := by
  cases offends <;> rfl

namespace Scanner

variable {c : Char} {cs rest : List Char} {s : Scanner}

def Pending.StopsAt : Pending → List Char → Prop
  | .none => fun _ => True
  | .number _ _ => Stops isNumeralChar
  | .symbol _ _ => Stops isSymbolInner

theorem run_flush (ends : s.pending.StopsAt rest) :
    (run s rest).bind finish = s.flush.bind fun t => (run t rest).bind finish := by
  cases rest with
  | nil =>
    cases flushed : s.flush with
    | error e => simp only [run_nil, Except.bind, finish, flushed, Except.map]
    | ok t =>
      have again := flush_of_pending (flush_pending flushed)
      simp only [run_nil, Except.bind, finish, flushed, again]
  | cons c rest =>
    have fed : s.feed c = s.flush.bind (·.begin c) := by
      unfold feed
      split
      · rename_i idle
        rw [flush_of_pending idle, Except.bind]
      · rename_i start word pending
        rw [pending] at ends
        rw [if_neg (by rw [ends c rfl]; exact Bool.false_ne_true)]
      · rename_i start word pending
        rw [pending] at ends
        rw [if_neg (by rw [ends c rfl]; exact Bool.false_ne_true)]
    cases flushed : s.flush with
    | error e => simp only [run_cons, fed, flushed, Except.bind]
    | ok t =>
      have begun := feed_of_pending (c := c) (flush_pending flushed)
      simp only [run_cons, fed, flushed, Except.bind, begun]

section

variable {pos : Nat} {done : List Token} {word : List Char}

theorem run_word_flush (p : Char → Bool) (state : Nat → List Char → Pending)
    (begins : feed ⟨pos, done, .none⟩ c = .ok ⟨pos + 1, done, state pos [c]⟩)
    (grows : ∀ now before d, p d = true →
      feed ⟨now, done, state pos before⟩ d = .ok ⟨now + 1, done, state pos (d :: before)⟩)
    (inside : ∀ d ∈ word, p d = true) (ends : ∀ before, (state pos before).StopsAt rest) :
    (run ⟨pos, done, .none⟩ (c :: word ++ rest)).bind finish =
      (flush ⟨pos + (c :: word).length, done, state pos (c :: word).reverse⟩).bind
        fun t => (run t rest).bind finish := by
  rw [List.cons_append, run_cons, begins, Except.bind, run_word grows inside, run_flush (ends _), List.reverse_cons,
    List.length_cons, Nat.add_assoc, Nat.add_comm 1]

theorem run_numeral (numeral : ∀ d ∈ c :: word, isNumeralChar d = true) (ends : Stops isNumeralChar rest) :
    (run ⟨pos, done, .none⟩ (c :: word ++ rest)).bind finish =
      (flush ⟨pos + (c :: word).length, done, .number pos (c :: word).reverse⟩).bind
        fun t => (run t rest).bind finish := by
  obtain ⟨first, inside⟩ := List.forall_mem_cons.mp numeral
  apply run_word_flush isNumeralChar .number _ _ inside (fun _ => ends)
  · simp only [feed, begin, isBlank_of_isNumeralChar first, first, Bool.false_eq_true, ↓reduceIte]
  · intro now before d digit
    simp only [feed, digit, ↓reduceIte]

theorem run_symbol (first : isSymbolStart c = true) (inside : ∀ d ∈ word, isSymbolInner d = true)
    (ends : Stops isSymbolInner rest) :
    (run ⟨pos, done, .none⟩ (c :: word ++ rest)).bind finish =
      (flush ⟨pos + (c :: word).length, done, .symbol pos (c :: word).reverse⟩).bind
        fun t => (run t rest).bind finish := by
  apply run_word_flush isSymbolInner .symbol _ _ inside (fun _ => ends)
  · simp only [feed, begin, isBlank_of_isSymbolStart first, isNumeralChar_of_isSymbolStart first, first,
      Bool.false_eq_true, ↓reduceIte]
  · intro now before d inner
    simp only [feed, inner, ↓reduceIte]

theorem run_lexeme {t : Token} (valid : t.lexeme.Valid) (ends : t.lexeme.StopsAt rest) :
    (run ⟨t.pos, done, .none⟩ (t.lexeme.text.toList ++ rest)).bind finish =
      (run ⟨t.stop, t :: done, .none⟩ rest).bind finish := by
  obtain ⟨lexeme, pos⟩ := t
  have width : 0 < lexeme.text.toList.length := by
    rw [lexeme.length_text]
    exact valid.width_pos
  obtain ⟨c, word, spelled⟩ := List.exists_cons_of_length_pos width
  cases lexeme with
  | number text =>
    obtain ⟨numeral, n, read⟩ := valid
    have spelled : text.toList = c :: word := spelled
    have whole : String.ofList (c :: word) = text := by rw [← spelled, String.ofList_toList]
    have length : text.length = (c :: word).length := by rw [← spelled, String.length_toList]
    rw [spelled] at numeral
    have flushed : flush ⟨pos + (c :: word).length, done, .number pos (c :: word).reverse⟩ =
        .ok ⟨pos + text.length, ⟨.number text, pos⟩ :: done, .none⟩ := by
      simp only [flush, List.reverse_reverse, whole, Numeral.readAt_eq_ok_iff.mpr read, length]
    change (run _ (text.toList ++ rest)).bind finish = _
    rw [spelled, run_numeral numeral ends, flushed]
    rfl
  | symbol name =>
    have spelled : name.toList = c :: word := spelled
    have whole : String.ofList (c :: word) = name := by rw [← spelled, String.ofList_toList]
    have length : name.length = (c :: word).length := by rw [← spelled, String.length_toList]
    have flushed : flush ⟨pos + (c :: word).length, done, .symbol pos (c :: word).reverse⟩ =
        .ok ⟨pos + name.length, ⟨.symbol name, pos⟩ :: done, .none⟩ := by
      simp only [flush, List.reverse_reverse, whole, length]
    have symbol : isSymbol name = true := valid
    simp only [isSymbol, spelled, Bool.and_eq_true, List.all_eq_true] at symbol
    change (run _ (name.toList ++ rest)).bind finish = _
    rw [spelled, run_symbol symbol.1 symbol.2 ends, flushed]
    rfl
  | delimiter char =>
    have fed : feed ⟨pos, done, .none⟩ char = .ok ⟨pos + 1, ⟨.delimiter char, pos⟩ :: done, .none⟩ := by
      have delimiter : isDelimiter char = true := valid
      simp only [isDelimiter, Bool.or_eq_true, beq_iff_eq] at delimiter
      rcases delimiter with ((rfl | rfl) | rfl) | rfl <;> rfl
    change (run _ ((String.singleton char).toList ++ rest)).bind finish = _
    rw [String.toList_singleton, List.singleton_append, run_cons, fed]
    rfl

theorem run_blank (blank : Text.isBlank c = true) :
    (run ⟨pos, done, .none⟩ (c :: cs)).bind finish = (run ⟨pos + 1, done, .none⟩ cs).bind finish := by
  have fed : feed ⟨pos, done, .none⟩ c = .ok ⟨pos + 1, done, .none⟩ := by
    simp only [feed, begin, blank, ↓reduceIte]
  rw [run_cons, fed, Except.bind]

theorem run_offends {err : ReadError} (offends : Offends pos rest err) :
    (run ⟨pos, done, .none⟩ rest).bind finish = .error err := by
  cases offends with
  | @char c rest blank numeral symbol delimiter =>
    have fed : feed ⟨pos, done, .none⟩ c = .error ⟨.unexpectedChar c, some pos⟩ := by
      simp only [feed, begin, blank, numeral, symbol, delimiter, Bool.false_eq_true, ↓reduceIte]
    rw [run_cons, fed]
    rfl
  | @numeral word rest e nonempty digits ends refused =>
    obtain ⟨c, word, rfl⟩ := List.exists_cons_of_ne_nil nonempty
    have flushed : flush ⟨pos + (c :: word).length, done, .number pos (c :: word).reverse⟩ =
        .error ⟨.numeral e, some pos⟩ := by
      simp only [flush, List.reverse_reverse, Numeral.readAt_eq_error_iff.mpr ⟨e, refused, rfl⟩]
    rw [run_numeral digits ends, flushed]
    rfl

end

/-- The result of scanning a text from the offset `pos`, behind the tokens `done`, the last one first. -/
def Describes (pos : Nat) (done : List Token) (cs : List Char) : Except ReadError (List Token) → Prop
  | .ok tokens => ∃ behind stop, tokens = done.reverse ++ behind ∧ Layout pos cs behind stop []
  | .error err => ∃ behind stop rest, Layout pos cs behind stop rest ∧ Offends stop rest err

variable {pos : Nat} {done : List Token} {result : Except ReadError (List Token)}

theorem Describes.blank (blank : Text.isBlank c = true) (later : Describes (pos + 1) done cs result) :
    Describes pos done (c :: cs) result := by
  cases result with
  | ok tokens =>
    obtain ⟨behind, stop, split, layout⟩ := later
    exact ⟨behind, stop, split, .blank blank layout⟩
  | error err =>
    obtain ⟨behind, stop, rest, layout, offends⟩ := later
    exact ⟨behind, stop, rest, .blank blank layout, offends⟩

theorem Describes.token {t : Token} (valid : t.lexeme.Valid) (ends : t.lexeme.StopsAt cs)
    (later : Describes t.stop (t :: done) cs result) :
    Describes t.pos done (t.lexeme.text.toList ++ cs) result := by
  cases result with
  | ok tokens =>
    obtain ⟨behind, stop, split, layout⟩ := later
    refine ⟨t :: behind, stop, ?_, .token valid ends layout⟩
    rw [split, List.reverse_cons, List.append_assoc, List.singleton_append]
  | error err =>
    obtain ⟨behind, stop, rest, layout, offends⟩ := later
    exact ⟨t :: behind, stop, rest, .token valid ends layout, offends⟩

theorem describes_number (numeral : isNumeralChar c = true)
    (later : ∀ pos done, Describes pos done (cs.dropWhile isNumeralChar)
      ((run ⟨pos, done, .none⟩ (cs.dropWhile isNumeralChar)).bind finish)) :
    Describes pos done (c :: cs) ((run ⟨pos, done, .none⟩ (c :: cs)).bind finish) := by
  let word := c :: cs.takeWhile isNumeralChar
  have digits : ∀ d ∈ word, isNumeralChar d = true :=
    List.forall_mem_cons.mpr ⟨numeral, List.all_eq_true.mp List.all_takeWhile⟩
  have whole : c :: cs = word ++ cs.dropWhile isNumeralChar := by
    rw [List.cons_append, List.takeWhile_append_dropWhile]
  have ends := stops_dropWhile isNumeralChar cs
  rw [whole]
  cases read : Numeral.read (String.ofList word) with
  | error e =>
    have offends : Offends pos (word ++ cs.dropWhile isNumeralChar) ⟨.numeral e, some pos⟩ :=
      .numeral (List.cons_ne_nil c _) digits ends read
    rw [run_offends offends]
    exact ⟨[], pos, _, .done, offends⟩
  | ok n =>
    let t : Token := ⟨.number (String.ofList word), pos⟩
    have valid : t.lexeme.Valid := ⟨by rwa [String.toList_ofList], n, read⟩
    have described := (later t.stop (t :: done)).token valid ends
    rw [← run_lexeme valid ends] at described
    rwa [Lexeme.text, String.toList_ofList] at described

theorem describes_symbol (symbol : isSymbolStart c = true)
    (later : ∀ pos done, Describes pos done (cs.dropWhile isSymbolInner)
      ((run ⟨pos, done, .none⟩ (cs.dropWhile isSymbolInner)).bind finish)) :
    Describes pos done (c :: cs) ((run ⟨pos, done, .none⟩ (c :: cs)).bind finish) := by
  let word := c :: cs.takeWhile isSymbolInner
  have whole : c :: cs = word ++ cs.dropWhile isSymbolInner := by
    rw [List.cons_append, List.takeWhile_append_dropWhile]
  have ends := stops_dropWhile isSymbolInner cs
  let t : Token := ⟨.symbol (String.ofList word), pos⟩
  have valid : t.lexeme.Valid := by
    simp only [t, Lexeme.Valid, isSymbol, String.toList_ofList, word, symbol, List.all_takeWhile, Bool.and_self]
  have described := (later t.stop (t :: done)).token valid ends
  rw [← run_lexeme valid ends] at described
  rw [whole]
  rwa [Lexeme.text, String.toList_ofList] at described

theorem describes_begin (described : ∀ pos done, Describes pos done cs ((run ⟨pos, done, .none⟩ cs).bind finish))
    (numeral : isNumeralChar c = false) (symbol : isSymbolStart c = false) :
    Describes pos done (c :: cs) ((run ⟨pos, done, .none⟩ (c :: cs)).bind finish) := by
  by_cases blank : Text.isBlank c = true
  · rw [run_blank blank]
    exact (described (pos + 1) done).blank blank
  · rw [Bool.not_eq_true] at blank
    by_cases delimiter : isDelimiter c = true
    · let t : Token := ⟨.delimiter c, pos⟩
      have valid : t.lexeme.Valid := delimiter
      have whole := (described t.stop (t :: done)).token valid trivial
      rw [← run_lexeme valid trivial] at whole
      rwa [Lexeme.text, String.toList_singleton] at whole
    · rw [Bool.not_eq_true] at delimiter
      have offends : Offends pos (c :: cs) ⟨.unexpectedChar c, some pos⟩ := .char blank numeral symbol delimiter
      rw [run_offends offends]
      exact ⟨[], pos, c :: cs, .done, offends⟩

theorem run_describes (cs : List Char) (pos : Nat) (done : List Token) :
    Describes pos done cs ((run ⟨pos, done, .none⟩ cs).bind finish) := by
  -- A word is taken at once, so the induction is on the length of the text.
  induction length : cs.length using Nat.strongRecOn generalizing cs pos done with
  | ind size ih =>
    cases cs with
    | nil => exact ⟨[], pos, by rw [List.append_nil], .done⟩
    | cons c cs =>
      have shorter : ∀ p : Char → Bool, (cs.dropWhile p).length < size := fun p => by
        have drop := (List.dropWhile_sublist (l := cs) p).length_le
        rw [List.length_cons] at length
        omega
      by_cases numeral : isNumeralChar c = true
      · exact describes_number numeral fun pos done => ih _ (shorter _) _ pos done rfl
      · by_cases symbol : isSymbolStart c = true
        · exact describes_symbol symbol fun pos done => ih _ (shorter _) _ pos done rfl
        · have rest : cs.length < size := by
            rw [← length, List.length_cons]
            exact Nat.lt_succ_self _
          exact describes_begin (fun pos done => ih _ rest cs pos done rfl) (Bool.eq_false_iff.mpr numeral)
            (Bool.eq_false_iff.mpr symbol)

end Scanner

namespace Token

variable {source : String} {tokens : List Token} {err : ReadError}

theorem layout_of_scan (scanned : scan source = .ok tokens) :
    Layout 0 source.toList tokens source.length [] := by
  have described := run_describes source.toList 0 []
  rw [show (run ⟨0, [], .none⟩ source.toList).bind finish = .ok tokens from scan_eq_run source ▸ scanned] at described
  obtain ⟨behind, stop, rfl, layout⟩ := described
  obtain ⟨front, whole, length⟩ := layout.split
  rw [List.append_nil] at whole
  rw [← whole, Nat.zero_add, String.length_toList] at length
  rwa [← length] at layout

theorem read_of_scan {t : Token} {text : String} (scanned : scan source = .ok tokens) (member : t ∈ tokens)
    (lexeme : t.lexeme = .number text) : ∃ n, Numeral.read text = .ok n := by
  have valid := (layout_of_scan scanned).valid member
  rw [lexeme] at valid
  exact valid.2

theorem offends_of_scan (refused : scan source = .error err) :
    ∃ before pos rest, Layout 0 source.toList before pos rest ∧ Offends pos rest err := by
  have described := run_describes source.toList 0 []
  rwa [show (run ⟨0, [], .none⟩ source.toList).bind finish = .error err from scan_eq_run source ▸ refused] at described

end Token

end LambdaCalc
