import LambdaCalc.Proofs.Reader.Refusal
import LambdaCalc.Proofs.Source

namespace LambdaCalc.Reader

open Grammar

variable {room : Room} {r s : Reader} {t : Token} {passed tokens : List Token} {err : ReadError}

/-- The last tokens passed are a lambda at the offset and the lexemes behind it. -/
def Began (passed : List Token) (start : Nat) (lexemes : List Lexeme) : Prop :=
  ∃ before opening list, passed = before ++ opening :: list ∧ opening.lexeme = .symbol keyword ∧
    opening.pos = start ∧ list.map Token.lexeme = lexemes

theorem Began.next {start : Nat} {lexemes : List Lexeme} (began : Began passed start lexemes) (t : Token) :
    Began (passed ++ [t]) start (lexemes ++ [t.lexeme]) := by
  obtain ⟨before, opening, list, rfl, lambda, offset, rfl⟩ := began
  exact ⟨before, opening, list ++ [t], by simp, lambda, offset, by simp⟩

def Anchored (passed : List Token) : State → Prop
  | .firstParameter start => Began passed start []
  | .parameter start names => names ≠ [] ∧ Began passed start (parameterLexemes names ++ [comma])
  | .afterParameter start names => names ≠ [] ∧ Began passed start (parameterLexemes names)
  | _ => True

theorem start_anchored {stack : List Context} (started : Reader.start room stack t = .ok s) :
    Anchored (passed ++ [t]) s.state := by
  unfold Reader.start at started
  split at started
  · cases started
  split at started
  · split at started
    · cases started
      trivial
    · cases started
  · rename_i name lexeme
    split at started
    · rename_i same
      cases started
      exact ⟨passed, t, [], rfl, by rw [lexeme, same], rfl, rfl⟩
    · cases started
      trivial
  · split at started
    · cases started
      trivial
    · cases started

theorem parameter_anchored {stack : List Context} {start : Nat} {names : List String}
    (began : names = [] ∧ Began passed start [] ∨
      names ≠ [] ∧ Began passed start (parameterLexemes names ++ [comma]))
    (read : parameter stack start names t = .ok s) : Anchored (passed ++ [t]) s.state := by
  unfold parameter at read
  split at read
  · rename_i name lexeme
    split at read
    · cases read
    · cases read
      refine ⟨List.concat_ne_nil name names, ?_⟩
      rcases began with ⟨rfl, began⟩ | ⟨nonempty, began⟩
      · have longer := began.next t
        rwa [lexeme] at longer
      · have longer := began.next t
        rw [lexeme] at longer
        rw [parameterLexemes_concat names name nonempty]
        simpa using longer
  · cases read

theorem close_anchored {stack : List Context} {e : Expr} (closed : close stack e t = .ok s) :
    Anchored passed s.state := by
  induction stack generalizing e with
  | nil => cases closed
  | cons context stack ih =>
    cases context with
    | body parameters => exact ih closed
    | group =>
      simp only [close] at closed
      split at closed
      · cases closed
        trivial
      · cases closed
    | operand operator before =>
      simp only [close] at closed
      split at closed
      · cases closed
        trivial
      · split at closed
        · cases closed
          trivial
        · cases closed

theorem feed_anchored (anchored : Anchored passed r.state) (fed : r.feed room t = .ok s) :
    Anchored (passed ++ [t]) s.state := by
  obtain ⟨stack, state⟩ := r
  cases state with
  | expr => exact start_anchored fed
  | firstOperand operator =>
    simp only [feed] at fed
    split at fed
    · cases fed
      trivial
    · exact start_anchored fed
  | firstParameter start =>
    simp only [feed] at fed
    split at fed
    · cases fed
      trivial
    · exact parameter_anchored (.inl ⟨rfl, anchored⟩) fed
  | parameter start names => exact parameter_anchored (.inr anchored) fed
  | afterParameter start names =>
    simp only [feed] at fed
    split at fed
    · rename_i between
      cases fed
      have longer := anchored.2.next t
      rw [between] at longer
      exact ⟨anchored.1, longer⟩
    · cases check : distinct start names with
      | error e =>
        rw [check] at fed
        cases fed
      | ok _ =>
        rw [check] at fed
        simp only [Except.bind] at fed
        split at fed
        · cases fed
          trivial
        · cases fed
  | complete e =>
    simp only [feed] at fed
    split at fed
    · cases fed
      trivial
    · exact close_anchored fed

theorem run_anchored (anchored : Anchored passed r.state) (ran : run room r tokens = .ok s) :
    Anchored (passed ++ tokens) s.state := by
  induction tokens generalizing r passed with
  | nil =>
    cases ran
    rwa [List.append_nil]
  | cons t rest ih =>
    obtain ⟨next, fed, goesOn⟩ := run_cons_eq_ok.mp ran
    have whole := ih (feed_anchored anchored fed) goesOn
    rwa [List.append_assoc, List.singleton_append] at whole

theorem firstRepeatedFrom_eq_some {seen names : List String} {name : String}
    (found : firstRepeated.firstRepeatedFrom seen names = some name) :
    ∃ front rest, names = front ++ name :: rest ∧ (name ∈ seen ∨ name ∈ front) := by
  induction names generalizing seen with
  | nil => cases found
  | cons other names ih =>
    rw [firstRepeated.firstRepeatedFrom] at found
    split at found
    · rename_i again
      cases found
      exact ⟨[], names, rfl, .inl (List.contains_iff_mem.mp again)⟩
    · obtain ⟨front, rest, rfl, before⟩ := ih found
      refine ⟨other :: front, rest, rfl, ?_⟩
      rcases before with earlier | later
      · rcases List.mem_cons.mp earlier with rfl | earlier
        · exact .inr List.mem_cons_self
        · exact .inl earlier
      · exact .inr (List.mem_cons_of_mem other later)

theorem firstRepeated_eq_some {names : List String} {name : String} (found : firstRepeated names = some name) :
    ∃ front rest, names = front ++ name :: rest ∧ name ∈ front := by
  cases names with
  | nil => cases found
  | cons other names =>
    obtain ⟨front, rest, split, before⟩ := firstRepeatedFrom_eq_some found
    exact ⟨front, rest, split, before.resolve_left List.not_mem_nil⟩

/-- What the offset of an error points at. -/
inductive Located (source : String) : ReadError → Prop where
  /-- A character that starts no token, or a whole numeral that cannot be read. -/
  | scanned {before : List Token} {pos : Nat} {rest : List Char} {err : ReadError}
      (layout : Layout 0 source.toList before pos rest) (offends : Offends pos rest err) : Located source err
  | token {tokens : List Token} {t : Token} {err : ReadError} (scanned : Token.scan source = .ok tokens)
      (member : t ∈ tokens) (blames : Blames t err) : Located source err
  /-- The lambda in front of a list of parameters in which a name comes again. -/
  | lambda {before list after : List Token} {opening : Token} {front rest : List String} {name : String}
      (scanned : Token.scan source = .ok (before ++ opening :: (list ++ after)))
      (lambda : opening.lexeme = .symbol keyword)
      (parameters : list.map Token.lexeme = parameterLexemes (front ++ name :: rest)) (again : name ∈ front) :
      Located source ⟨.duplicateParameter name, some opening.pos⟩
  | ended {tokens : List Token} {last : Token} {err : ReadError} (scanned : Token.scan source = .ok tokens)
      (final : tokens.getLast? = some last) (out : RunsOut last.stop err) : Located source err
  /-- The token for which there is no room, or the end of the last one. -/
  | tooDeep {tokens : List Token} {p : Nat} (scanned : Token.scan source = .ok tokens)
      (place : (∃ t ∈ tokens, p = t.pos) ∨ ∃ last, tokens.getLast? = some last ∧ p = last.stop) :
      Located source ⟨.tooDeep, some p⟩

theorem located_of_repeated {source : String} {before after : List Token} {start : Nat} {names : List String}
    (scanned : Token.scan source = .ok (before ++ after)) (ran : run room {} before = .ok s)
    (listed : s.state = .afterParameter start names) (clash : distinct start names = .error err) :
    Located source err := by
  have initial : Anchored [] ({} : Reader).state := trivial
  have anchored := run_anchored initial ran
  rw [listed, List.nil_append] at anchored
  obtain ⟨-, front, opening, list, rfl, lambda, rfl, parameters⟩ := anchored
  obtain ⟨name, found, rfl⟩ := reason_of_distinct clash
  obtain ⟨earlier, rest, rfl, again⟩ := firstRepeated_eq_some found
  rw [List.append_assoc, List.cons_append] at scanned
  exact .lambda scanned lambda parameters again

theorem located_of_refuses {source : String} (scanned : Token.scan source = .ok tokens) (nonempty : tokens ≠ [])
    (refuses : Refuses room tokens err) : Located source err := by
  have final := List.getLast?_eq_some_getLast nonempty
  cases refuses with
  | tooDeep member => exact .tooDeep scanned (.inl ⟨_, member, rfl⟩)
  | tooDeepEnd => exact .tooDeep scanned (.inr ⟨_, final, by rw [endOf, final]; rfl⟩)
  | numeral member lexeme refused =>
    obtain ⟨n, read⟩ := Token.read_of_scan scanned member lexeme
    rw [read] at refused
    cases refused
  | repeated split ran listed clash => exact located_of_repeated (split ▸ scanned) ran listed clash
  | blamed split ran refused blames => exact .token scanned (by rw [split]; simp) blames
  | ended ran refused out =>
    rw [endOf, final] at out
    exact .ended scanned final out

theorem Located.position_le {source : String} (located : Located source err) :
    ∃ p, err.position = some p ∧ p ≤ source.length := by
  cases located with
  | scanned layout offends =>
    obtain ⟨front, whole, length⟩ := layout.split
    have bound := congrArg List.length whole
    rw [String.length_toList, List.length_append] at bound
    refine ⟨_, offends.position, ?_⟩
    omega
  | token scanned member blames =>
    have stop := ((Token.layout_of_scan scanned).stands member).1
    refine ⟨_, blames.position, ?_⟩
    rw [Token.stop] at stop
    omega
  | lambda scanned lambda parameters again =>
    have stop := ((Token.layout_of_scan scanned).stands (List.mem_append_right _ List.mem_cons_self)).1
    refine ⟨_, rfl, ?_⟩
    rw [Token.stop] at stop
    omega
  | ended scanned final out =>
    exact ⟨_, out.position, ((Token.layout_of_scan scanned).stands (List.mem_of_getLast? final)).1⟩
  | tooDeep scanned place =>
    refine ⟨_, rfl, ?_⟩
    rcases place with ⟨t, member, rfl⟩ | ⟨last, final, rfl⟩
    · have stop := ((Token.layout_of_scan scanned).stands member).1
      rw [Token.stop] at stop
      omega
    · exact ((Token.layout_of_scan scanned).stands (List.mem_of_getLast? final)).1

theorem located_of_read {source : String} (failed : Expr.read room source = .error err) : Located source err := by
  cases scanned : Token.scan source with
  | error e =>
    rw [Expr.read, scanned, Except.bind] at failed
    cases failed
    obtain ⟨before, pos, rest, layout, offends⟩ := Token.offends_of_scan scanned
    exact .scanned layout offends
  | ok tokens =>
    have nonempty : tokens ≠ [] := by
      rintro rfl
      rw [Expr.read, scanned] at failed
      cases failed
    exact located_of_refuses scanned nonempty (refuses_of_ofTokens (ofTokens_of_read scanned failed))

/-- Reading a text gives nothing for blank text only. It fails first for what cannot be scanned. An error has an
offset in the text or at its end, and there stands what it is about. -/
theorem read_error_located (room : Room) (source : String) :
    (Expr.read room source = .ok none ↔ ∀ c ∈ source.toList, Text.isBlank c = true) ∧
    (∀ err, Token.scan source = .error err → Expr.read room source = .error err) ∧
    ∀ err, Expr.read room source = .error err →
      Located source err ∧ ∃ p, err.position = some p ∧ p ≤ source.length := by
  refine ⟨Expr.read_eq_none_iff, ?_, ?_⟩
  · intro err refused
    rw [Expr.read, refused, Except.bind]
  · intro err failed
    have located := located_of_read failed
    exact ⟨located, located.position_le⟩

/-- A repeated parameter is reported at its lambda, a missing parenthesis at the end of the last token and not
at the blanks behind it, a character that starts no token before anything else, and the nesting at the first token
for which there is no room. -/
theorem read_error_located_repeated :
    let room : Room := { frames := 4, group := 1, operand := 3, body := 1 }
    Expr.read room "f(lambda x, y, x: 1)" = .error ⟨.duplicateParameter "x", some 2⟩ ∧
      Located "f(lambda x, y, x: 1)" ⟨.duplicateParameter "x", some 2⟩ ∧
      Expr.read room "f(1  " = .error ⟨.expected "')'" none, some 3⟩ ∧
      Located "f(1  " ⟨.expected "')'" none, some 3⟩ ∧
      Expr.read room ") ?" = .error ⟨.unexpectedChar '?', some 2⟩ ∧
      Expr.read room "f((1))" = .error ⟨.tooDeep, some 3⟩ ∧ Located "f((1))" ⟨.tooDeep, some 3⟩ := by
  intro room
  have repeated : Expr.read room "f(lambda x, y, x: 1)" = .error ⟨.duplicateParameter "x", some 2⟩ := rfl
  have ended : Expr.read room "f(1  " = .error ⟨.expected "')'" none, some 3⟩ := rfl
  have scanned : Token.scan ") ?" = .error ⟨.unexpectedChar '?', some 2⟩ := rfl
  have deep : Expr.read room "f((1))" = .error ⟨.tooDeep, some 3⟩ := rfl
  have lambda := (read_error_located room _).2.2 _ repeated
  have last := (read_error_located room _).2.2 _ ended
  have crowded := (read_error_located room _).2.2 _ deep
  exact ⟨repeated, lambda.1, ended, last.1, (read_error_located room _).2.1 _ scanned, deep, crowded.1⟩

end LambdaCalc.Reader
