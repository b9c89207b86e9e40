import LambdaCalc.Proofs.Grammar.Soundness
import LambdaCalc.Proofs.Token.Layout

namespace LambdaCalc.Grammar

open Reader

variable {room : Room}

/-- The context-free grammar, in which numerals go by their look and parameters may be repeated. -/
inductive Phrase : Nonterminal → List Lexeme → Prop where
  | literal (text : String) : Phrase .primary [.number text]
  | name {identifier : String} (free : identifier ≠ keyword) : Phrase .primary [.symbol identifier]
  | group {inner : List Lexeme} (inside : Phrase .expr inner) :
      Phrase .primary (.delimiter '(' :: inner ++ [.delimiter ')'])
  | call {front : List Lexeme} (operands : List (List Lexeme)) (before : Phrase .primary front)
      (inside : ∀ o ∈ operands, Phrase .expr o) :
      Phrase .primary (front ++ .delimiter '(' :: [comma].intercalate operands ++ [.delimiter ')'])
  | primary {lexemes : List Lexeme} (whole : Phrase .primary lexemes) : Phrase .expr lexemes
  | lambda {names : List String} {inner : List Lexeme} (free : ∀ name ∈ names, name ≠ keyword)
      (inside : Phrase .expr inner) : Phrase .expr (lambdaLexemes names ++ inner)

abbrev Sentence (lexemes : List Lexeme) : Prop := Phrase .expr lexemes

/-- The lexemes begin a sentence that can be written to its end. -/
def Viable (lexemes : List Lexeme) : Prop :=
  ∃ rest, (∀ lexeme ∈ rest, lexeme.Valid) ∧ Sentence (lexemes ++ rest)

/-- The lexemes begin no sentence. -/
def Hopeless (lexemes : List Lexeme) : Prop := ∀ rest, ¬ Sentence (lexemes ++ rest)

theorem Derives.phrase {nonterminal : Nonterminal} {n : Nat} {lexemes : List Lexeme} {e : Expr}
    (derivation : Derives room nonterminal n lexemes e) : Phrase nonterminal lexemes := by
  induction derivation with
  | literal numeral => exact .literal _
  | name free => exact .name free
  | group inside ih => exact .group ih
  | call operands before inside first rest =>
    refine .call (operands.map Operand.lexemes) first fun lexemes member => ?_
    obtain ⟨o, among, rfl⟩ := List.mem_map.mp member
    exact rest o among
  | primary whole ih => exact .primary ih
  | lambda free distinct inside ih => exact .lambda free ih

theorem Opens.viable {stack : List Context} {front inner : List Lexeme} (opens : Opens room stack front)
    (phrase : Phrase .expr inner) : Viable (front ++ inner) := by
  induction opens generalizing inner with
  | nil => exact ⟨[], by simp, by simpa using phrase⟩
  | @group stack front outer ih =>
    obtain ⟨rest, valid, sentence⟩ := ih (.primary (.group phrase))
    refine ⟨.delimiter ')' :: rest, List.forall_mem_cons.mpr ⟨rfl, valid⟩, ?_⟩
    simpa using sentence
  | @body stack front names outer free nodup ih =>
    obtain ⟨rest, valid, sentence⟩ := ih (.lambda free phrase)
    exact ⟨rest, valid, by simpa using sentence⟩
  | @operand stack front called n operator operands outer before fits inside each ih =>
    have members : ∀ o ∈ operands.map Operand.lexemes ++ [inner], Phrase .expr o := by
      refine List.forall_mem_append.mpr ⟨fun lexemes member => ?_, List.forall_mem_singleton.mpr phrase⟩
      obtain ⟨o, among, rfl⟩ := List.mem_map.mp member
      exact (inside o among).phrase
    obtain ⟨rest, valid, sentence⟩ := ih (.primary (.call _ before.phrase members))
    refine ⟨.delimiter ')' :: rest, List.forall_mem_cons.mpr ⟨rfl, valid⟩, ?_⟩
    have list := operandLexemes_concat operands ⟨0, inner, operator⟩
    rw [operandLexemes, List.map_append, List.map_singleton] at list
    rw [list] at sentence
    simpa using sentence

theorem Viable.of_append {lexemes more : List Lexeme} (valid : ∀ lexeme ∈ more, lexeme.Valid)
    (viable : Viable (lexemes ++ more)) : Viable lexemes := by
  obtain ⟨rest, others, sentence⟩ := viable
  rw [List.append_assoc] at sentence
  exact ⟨more ++ rest, List.forall_mem_append.mpr ⟨valid, others⟩, sentence⟩

def filler : Lexeme := .symbol "x"

theorem filler_valid : filler.Valid := rfl

theorem filler_phrase : Phrase .expr [filler] := .primary (.name (by decide))

theorem body_valid : ∀ lexeme ∈ [.delimiter ':', filler], lexeme.Valid :=
  List.forall_mem_cons.mpr ⟨rfl, List.forall_mem_singleton.mpr filler_valid⟩

theorem lambda_phrase {names : List String} (free : ∀ name ∈ names, name ≠ keyword) :
    Phrase .expr (.symbol keyword :: parameterLexemes names ++ [.delimiter ':', filler]) := by
  simpa [lambdaLexemes] using Phrase.lambda free filler_phrase

theorem Reached.viable {r : Reader} {lexemes : List Lexeme} (reached : Reached room r lexemes) :
    Viable lexemes := by
  obtain ⟨front, back, opens, pending, rfl⟩ := reached
  obtain ⟨stack, state⟩ := r
  -- In each state the expression under way is brought to its end first, then the contexts around it.
  suffices finished : ∃ more, (∀ lexeme ∈ more, lexeme.Valid) ∧ Phrase .expr (back ++ more) by
    obtain ⟨more, valid, phrase⟩ := finished
    have viable := opens.viable phrase
    rw [← List.append_assoc] at viable
    exact viable.of_append valid
  cases state with
  | expr =>
    cases pending
    exact ⟨[filler], by simp [filler_valid], filler_phrase⟩
  | complete e =>
    obtain ⟨n, derivation, -⟩ := pending
    exact ⟨[], by simp, by simpa using Phrase.primary derivation.phrase⟩
  | firstOperand operator =>
    obtain ⟨n, called, derivation, -, rfl⟩ := pending
    refine ⟨[.delimiter ')'], List.forall_mem_singleton.mpr rfl, ?_⟩
    simpa [List.intercalate] using Phrase.primary (.call [] derivation.phrase (by simp))
  | firstParameter start =>
    cases pending
    exact ⟨_, body_valid, @lambda_phrase [] (by simp)⟩
  | parameter start names =>
    obtain ⟨nonempty, free, rfl⟩ := pending
    have longer : ∀ name ∈ names ++ ["x"], name ≠ keyword :=
      List.forall_mem_append.mpr ⟨free, List.forall_mem_singleton.mpr (by decide)⟩
    have phrase := lambda_phrase longer
    rw [parameterLexemes_concat names "x" nonempty] at phrase
    refine ⟨filler :: [.delimiter ':', filler], List.forall_mem_cons.mpr ⟨filler_valid, body_valid⟩, ?_⟩
    simpa [filler] using phrase
  | afterParameter start names =>
    obtain ⟨nonempty, free, rfl⟩ := pending
    exact ⟨_, body_valid, lambda_phrase free⟩

end LambdaCalc.Grammar
