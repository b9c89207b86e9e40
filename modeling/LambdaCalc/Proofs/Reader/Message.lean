import LambdaCalc.Proofs.Reader.Canonical
import LambdaCalc.Proofs.Reader.Location
import LambdaCalc.Proofs.Text.Visible

namespace LambdaCalc

open Text

namespace Numeral

theorem error_cases {text : String} {e : Error} (refused : read text = .error e) :
    e = .malformed text ∨ e = .outOfRange text ∨ e = .tooManyDigits := by
  simp only [read] at refused
  split at refused
  · split at refused
    · cases refused
      exact .inl rfl
    · split at refused
      · cases refused
      · cases refused
        exact .inr (.inl rfl)
  · split at refused
    · cases refused
    · split at refused
      · cases refused
        exact .inr (.inr rfl)
      · cases refused
        exact .inl rfl

theorem visible_message {text : String} {e : Error} (visible : Visible text) (refused : read text = .error e) :
    Visible e.message := by
  rcases error_cases refused with rfl | rfl | rfl
  · have opening : Visible "'" := by decide
    exact (opening.append visible).append (by decide)
  · have opening : Visible "numeral '" := by decide
    have start : Visible (String.ofList (text.toList.take 20)) :=
      visible_ofList.mpr fun c member => visible c (List.mem_of_mem_take member)
    exact (opening.append start).append (by decide)
  · have opening : Visible "numeral has more than " := by decide
    exact (opening.append (Number.visible_intText _)).append (by decide)

end Numeral

theorem Token.visible_of_numeral {cs : List Char} (numeral : ∀ c ∈ cs, isNumeralChar c = true) :
    Visible (String.ofList cs) := visible_ofList.mpr fun c member => isPrintable_of_isNumeralChar (numeral c member)

theorem Lexeme.visible_shown {lexeme : Lexeme} (valid : lexeme.Valid) : Visible lexeme.shown := by
  cases lexeme with
  | number text =>
    have visible := Token.visible_of_numeral valid.1
    rwa [String.ofList_toList] at visible
  | symbol name => exact Scanner.visible_of_isSymbol valid
  | delimiter char => exact visible_quotedChars [char]

theorem ReadError.visible_message {err : ReadError} (reason : Visible err.reason.message) :
    Visible err.message := by
  unfold message
  split
  · rename_i p _
    have between : Visible " (at offset " := by decide
    exact ((reason.append between).append (visible_toString_nat p)).append (by decide)
  · exact reason

namespace Reader

variable {room : Room} {source : String} {err : ReadError} {t : Token}

theorem visible_delimiterText (char : Char) : Visible (delimiterText char) := visible_quotedChars [char]

theorem Blames.visible (blames : Blames t err) (valid : t.lexeme.Valid) : Visible err.reason.message := by
  have shown := Lexeme.visible_shown valid
  cases blames with
  | unexpected =>
    have opening : Visible "unexpected token " := by decide
    exact opening.append shown
  | expected char =>
    have opening : Visible "expected " := by decide
    have between : Visible ", got " := by decide
    exact ((opening.append (visible_delimiterText char)).append between).append shown
  | notParameter =>
    have opening : Visible "expected a parameter name, got " := by decide
    exact opening.append shown
  | trailing =>
    have whole : Visible "unexpected trailing input" := by decide
    exact whole

theorem RunsOut.visible {stop : Nat} (out : RunsOut stop err) : Visible err.reason.message := by
  cases out with
  | incomplete =>
    have whole : Visible "incomplete expression" := by decide
    exact whole
  | expected char =>
    have opening : Visible "expected " := by decide
    exact (opening.append (visible_delimiterText char)).append (by decide)

theorem Located.visible (located : Located source err) : Visible err.reason.message := by
  cases located with
  | scanned layout offends =>
    cases offends with
    | @char c rest blank numeral symbol delimiter =>
      have opening : Visible "unexpected character " := by decide
      exact opening.append (visible_quotedChars [c])
    | numeral nonempty digits ends refused => exact Numeral.visible_message (Token.visible_of_numeral digits) refused
  | token scanned member blames => exact blames.visible ((Token.layout_of_scan scanned).valid member)
  | @lambda before list after opening front rest name scanned lambda parameters again =>
    -- The name stands in the list, and so among the tokens.
    have listed : Lexeme.symbol name ∈ list.map Token.lexeme := by
      rw [parameters]
      exact Grammar.mem_parameterLexemes (by simp)
    obtain ⟨t, inside, lexeme⟩ := List.mem_map.mp listed
    have valid := (Token.layout_of_scan scanned).valid (t := t) (by simp [inside])
    rw [lexeme] at valid
    have quote : Visible "duplicate parameter '" := by decide
    exact (quote.append (Scanner.visible_of_isSymbol valid)).append (by decide)
  | ended scanned final out => exact out.visible
  | tooDeep scanned place =>
    have whole : Visible "expression nested too deeply" := by decide
    exact whole

theorem visible_of_read (failed : Expr.read room source = .error err) : Visible err.message :=
  ReadError.visible_message (located_of_read failed).visible

end Reader

end LambdaCalc
