import LambdaCalc.Proofs.Token.Segments

namespace LambdaCalc

open Scanner Token

def Token.relocate (f : Nat → Nat) (t : Token) : Token := { t with pos := f t.pos }

def ReadError.relocate (f : Nat → Nat) (err : ReadError) : ReadError :=
  { err with position := err.position.map f }

theorem Scanner.separates_blank {c : Char} (blank : Text.isBlank c = true) (rest : List Char) :
    Separates (c :: rest) := by
  have numeral : isNumeralChar c = false := by
    rw [← Bool.not_eq_true]
    intro numeral
    rw [isBlank_of_isNumeralChar numeral] at blank
    contradiction
  have start : isSymbolStart c = false := by
    rw [← Bool.not_eq_true]
    intro start
    rw [isBlank_of_isSymbolStart start] at blank
    contradiction
  have digit : c.isDigit = false := by
    rw [← Bool.not_eq_true]
    intro digit
    rw [isNumeralChar_of_isDigit digit] at numeral
    contradiction
  exact ⟨numeral, by rw [isSymbolInner, start, digit, Bool.or_false]⟩

theorem Scanner.Separates.stops {rest : List Char} (separates : Separates rest) :
    Stops isNumeralChar rest ∧ Stops isSymbolInner rest := by
  cases rest with
  | nil =>
    constructor
    all_goals
      intro c first
      cases first
  | cons d rest =>
    constructor
    all_goals
      intro c first
      cases first
    · exact separates.1
    · exact separates.2

theorem Stops.append {p : Char → Bool} {front rest : List Char} (inside : Stops p front)
    (behind : Stops p rest) : Stops p (front ++ rest) := by
  cases front with
  | nil => exact behind
  | cons c front => exact inside

theorem Lexeme.StopsAt.append {lexeme : Lexeme} {front rest : List Char} (ends : lexeme.StopsAt front)
    (separates : Separates rest) : lexeme.StopsAt (front ++ rest) := by
  cases lexeme with
  | number => exact Stops.append ends separates.stops.1
  | symbol => exact Stops.append ends separates.stops.2
  | delimiter => trivial

theorem Offends.append {pos : Nat} {rest more : List Char} {err : ReadError} (offends : Offends pos rest err)
    (separates : Separates more) : Offends pos (rest ++ more) err := by
  cases offends with
  | char blank numeral symbol delimiter => exact .char blank numeral symbol delimiter
  | numeral nonempty digits ends refused =>
    rw [List.append_assoc]
    exact .numeral nonempty digits (ends.append separates.stops.1) refused

theorem Offends.shift {pos : Nat} {rest : List Char} {err : ReadError} (offends : Offends pos rest err)
    (distance : Nat) : Offends (pos + distance) rest (err.relocate (· + distance)) := by
  cases offends with
  | char blank numeral symbol delimiter => exact .char blank numeral symbol delimiter
  | numeral nonempty digits ends refused => exact .numeral nonempty digits ends refused

namespace Layout

variable {pos stop middle : Nat} {cs rest inner : List Char} {tokens front back : List Token}

theorem append {more : List Char} (layout : Layout pos cs tokens stop rest) (separates : Separates more) :
    Layout pos (cs ++ more) tokens stop (rest ++ more) := by
  induction layout with
  | done => exact .done
  | blank blank later ih => exact .blank blank ih
  | token valid ends later ih =>
    rw [List.append_assoc]
    exact .token valid (ends.append separates) ih

theorem shift (layout : Layout pos cs tokens stop rest) (distance : Nat) :
    Layout (pos + distance) cs (tokens.map (Token.relocate (· + distance))) (stop + distance) rest := by
  induction layout with
  | done => exact .done
  | @blank pos stop c cs rest tokens blank later ih =>
    apply Layout.blank blank
    rwa [Nat.add_right_comm]
  | @token t stop cs rest tokens valid ends later ih =>
    have moved : (t.relocate (· + distance)).stop = t.stop + distance := Nat.add_right_comm _ _ _
    rw [← moved] at ih
    exact Layout.token (t := t.relocate (· + distance)) valid ends ih

theorem skip {gap : List Char} (blank : ∀ c ∈ gap, Text.isBlank c = true)
    (later : Layout (pos + gap.length) cs tokens stop rest) : Layout pos (gap ++ cs) tokens stop rest := by
  induction gap generalizing pos with
  | nil => exact later
  | cons c gap ih =>
    obtain ⟨first, others⟩ := List.forall_mem_cons.mp blank
    apply Layout.blank first
    apply ih others
    rwa [List.length_cons, Nat.add_comm gap.length, ← Nat.add_assoc] at later

theorem trans (first : Layout pos cs front middle inner) (second : Layout middle inner back stop rest) :
    Layout pos cs (front ++ back) stop rest := by
  induction first with
  | done => exact second
  | blank blank later ih => exact .blank blank (ih second)
  | token valid ends later ih => exact .token valid ends (ih second)

end Layout

namespace Token

variable {source first gap second : String} {tokens : List Token} {err : ReadError}

theorem scan_of_offends {before : List Token} {pos : Nat} {rest : List Char}
    (layout : Layout 0 source.toList before pos rest) (offends : Offends pos rest err) :
    scan source = .error err := by
  rw [scan_eq_run]
  rw [run_layout layout, run_offends offends]

theorem toList_join : (first ++ gap ++ second).toList = first.toList ++ (gap.toList ++ second.toList) := by
  rw [String.toList_append, String.toList_append, List.append_assoc]

theorem separates_gap (nonempty : gap ≠ "") (blank : ∀ c ∈ gap.toList, Text.isBlank c = true)
    (rest : List Char) : Separates (gap.toList ++ rest) := by
  cases spelled : gap.toList with
  | nil => exact absurd (String.toList_eq_nil_iff.mp spelled) nonempty
  | cons c cs =>
    rw [spelled] at blank
    exact separates_blank (blank c List.mem_cons_self) (cs ++ rest)

theorem layout_join {before : List Token} {pos : Nat} {rest : List Char} (nonempty : gap ≠ "")
    (blank : ∀ c ∈ gap.toList, Text.isBlank c = true) (scanned : scan first = .ok tokens)
    (layout : Layout 0 second.toList before pos rest) :
    Layout 0 (first ++ gap ++ second).toList
      (tokens ++ before.map (Token.relocate (· + (first.length + gap.length))))
      (pos + (first.length + gap.length)) rest := by
  have upTo := (layout_of_scan scanned).append (separates_gap nonempty blank second.toList)
  have behind : Layout first.length (gap.toList ++ second.toList)
      (before.map (Token.relocate (· + (first.length + gap.length)))) (pos + (first.length + gap.length)) rest := by
    apply Layout.skip blank
    have moved := layout.shift (first.length + gap.length)
    rwa [Nat.zero_add] at moved
  rw [toList_join]
  exact upTo.trans behind

/-- Blanks between two texts keep their tokens apart. The tokens of the whole are those of the first text and
then those of the second, as far behind as that one stands. What the first text is refused for, the whole is
refused for, at the same offset, and else what the second is refused for, as far behind. -/
theorem scan_join (first gap second : String) (nonempty : gap ≠ "")
    (blank : ∀ c ∈ gap.toList, Text.isBlank c = true) :
    (∀ before behind, scan first = .ok before → scan second = .ok behind →
      scan (first ++ gap ++ second) =
        .ok (before ++ behind.map fun t => ⟨t.lexeme, t.pos + (first.length + gap.length)⟩)) ∧
    (∀ err, scan first = .error err → scan (first ++ gap ++ second) = .error err) ∧
    ∀ before err, scan first = .ok before → scan second = .error err → ∃ p, err.position = some p ∧
      scan (first ++ gap ++ second) = .error ⟨err.reason, some (p + (first.length + gap.length))⟩ := by
  refine ⟨?_, ?_, ?_⟩
  · intro before behind scanned later
    exact scan_of_layout (layout_join nonempty blank scanned (layout_of_scan later))
  · intro err refused
    obtain ⟨before, pos, rest, layout, offends⟩ := offends_of_scan refused
    have separates := separates_gap nonempty blank second.toList
    have upTo := layout.append separates
    rw [← toList_join] at upTo
    exact scan_of_offends upTo (offends.append separates)
  · intro before err scanned refused
    obtain ⟨inside, pos, rest, layout, offends⟩ := offends_of_scan refused
    have moved := offends.shift (first.length + gap.length)
    refine ⟨pos, offends.position, ?_⟩
    rw [ReadError.relocate, offends.position] at moved
    exact scan_of_offends (layout_join nonempty blank scanned layout) moved

/-- Without the blanks the two numerals would be one run, and no numeral. -/
theorem scan_join_numerals :
    scan ("f(1" ++ " \n" ++ "-2)") = .ok [⟨.symbol "f", 0⟩, ⟨.delimiter '(', 1⟩, ⟨.number "1", 2⟩,
      ⟨.number "-2", 5⟩, ⟨.delimiter ')', 7⟩] ∧
    scan ("1-2" ++ " \n" ++ "?") = .error ⟨.numeral (.malformed "1-2"), some 0⟩ ∧
    scan ("f(1" ++ " \n" ++ "x?") = .error ⟨.unexpectedChar '?', some 6⟩ := by
  have nonempty : " \n" ≠ "" := by decide
  have blank : ∀ c ∈ " \n".toList, Text.isBlank c = true := List.all_eq_true.mp rfl
  have call : scan "f(1" = .ok [⟨.symbol "f", 0⟩, ⟨.delimiter '(', 1⟩, ⟨.number "1", 2⟩] := rfl
  have operand : scan "-2)" = .ok [⟨.number "-2", 0⟩, ⟨.delimiter ')', 2⟩] := rfl
  have run : scan "1-2" = .error ⟨.numeral (.malformed "1-2"), some 0⟩ := rfl
  have char : scan "x?" = .error ⟨.unexpectedChar '?', some 1⟩ := rfl
  obtain ⟨p, position, behind⟩ := (scan_join "f(1" " \n" "x?" nonempty blank).2.2 _ _ call char
  cases position
  exact ⟨(scan_join _ _ _ nonempty blank).1 _ _ call operand, (scan_join _ _ _ nonempty blank).2.1 _ run, behind⟩

end Token

end LambdaCalc
