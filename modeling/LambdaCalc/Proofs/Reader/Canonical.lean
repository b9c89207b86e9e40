import LambdaCalc.Proofs.Numeral.Range
import LambdaCalc.Proofs.Source
import LambdaCalc.Proofs.Token.Layout

namespace LambdaCalc

namespace Grammar

variable {room : Room}

theorem mem_operandLexemes {operands : List Operand} {o : Operand} (member : o ∈ operands) {lexeme : Lexeme}
    (inside : lexeme ∈ o.lexemes) : lexeme ∈ operandLexemes operands := by
  induction operands with
  | nil => exact absurd member List.not_mem_nil
  | cons first rest ih =>
    cases rest with
    | nil =>
      rw [operandLexemes_singleton, ← List.mem_singleton.mp member]
      exact inside
    | cons second rest =>
      rw [operandLexemes_cons, List.mem_append]
      rcases List.mem_cons.mp member with rfl | later
      · exact .inl inside
      · exact .inr (List.mem_cons_of_mem comma (ih later))

theorem mem_parameterLexemes {names : List String} {name : String} (member : name ∈ names) :
    .symbol name ∈ parameterLexemes names := by
  induction names with
  | nil => exact absurd member List.not_mem_nil
  | cons first rest ih =>
    cases rest with
    | nil =>
      rw [List.mem_singleton.mp member]
      exact List.mem_cons_self
    | cons second rest =>
      rw [parameterLexemes_cons]
      rcases List.mem_cons.mp member with rfl | later
      · exact List.mem_cons_self
      · exact List.mem_cons_of_mem _ (List.mem_cons_of_mem _ (ih later))

theorem wellFormed_of_derives {nonterminal : Nonterminal} {n : Nat} {lexemes : List Lexeme} {e : Expr}
    (derivation : Derives room nonterminal n lexemes e) (valid : ∀ lexeme ∈ lexemes, lexeme.Valid) :
    e.wellFormed = true := by
  induction derivation with
  | literal numeral => exact Numeral.hasNumeral_of_read numeral
  | @name identifier free =>
    have symbol : Scanner.isSymbol identifier = true := valid _ List.mem_cons_self
    rw [Expr.wellFormed, symbol, Bool.true_and, bne_iff_ne]
    exact free
  | group inside ih =>
    exact ih fun lexeme member => valid lexeme (List.mem_append_left _ (List.mem_cons_of_mem _ member))
  | call operands before inside first rest =>
    have operator := first fun lexeme member =>
      valid lexeme (List.mem_append_left _ (List.mem_append_left _ member))
    have each : ∀ e ∈ operands.map Operand.expr, e.wellFormed = true := by
      intro e member
      obtain ⟨o, among, rfl⟩ := List.mem_map.mp member
      refine rest o among fun lexeme within => valid lexeme ?_
      have inside := mem_operandLexemes among within
      exact List.mem_append_left _ (List.mem_append_right _ (List.mem_cons_of_mem _ inside))
    rw [Expr.wellFormed, operator, Bool.true_and, Expr.wellFormedAll_iff]
    exact each
  | primary whole ih => exact ih valid
  | @lambda n names inner body free distinct inside ih =>
    have formed := ih fun lexeme member => valid lexeme (List.mem_append_right _ member)
    have parameters : names.all (fun p => Scanner.isSymbol p && p != Reader.keyword) = true := by
      rw [List.all_eq_true]
      intro p member
      have symbol : Scanner.isSymbol p = true := by
        have inside := List.mem_append_left [.delimiter ':'] (mem_parameterLexemes member)
        exact valid _ (List.mem_append_left _ (List.mem_cons_of_mem _ inside))
      rw [symbol, Bool.true_and, bne_iff_ne]
      exact free p member
    rw [Expr.wellFormed, parameters, decide_eq_true distinct, formed]
    rfl

end Grammar

namespace Expr

variable {room : Room} {source : String} {e : Expr}

theorem wellFormed_of_read (read : Expr.read room source = .ok (some e)) : e.wellFormed = true := by
  obtain ⟨tokens, n, scanned, derivation, -⟩ := Grammar.derives_of_read read
  refine Grammar.wellFormed_of_derives derivation fun lexeme member => ?_
  obtain ⟨t, among, rfl⟩ := List.mem_map.mp member
  exact (Token.layout_of_scan scanned).valid among

/-- What is read is well formed. Unless the tree is too deep to be written, its text is read as the same
tree, and so has the same text again. -/
theorem read_canonical (stack : Stack) (source : String) (e : Expr)
    (read : Expr.read stack.reading source = .ok (some e)) :
    e.wellFormed = true ∧
    (e.fits stack.source = true → ∃ text, e.source? stack = .ok text ∧
      Expr.read stack.reading text = .ok (some e) ∧
      ∀ other, Expr.read stack.reading text = .ok (some other) → other.source? stack = .ok text) := by
  have formed := wellFormed_of_read read
  refine ⟨formed, fun shallow => ?_⟩
  have written := source?_eq formed shallow
  -- The text of its own has no more nesting than the one that was read.
  obtain ⟨tokens, n, -, derivation, fits⟩ := Grammar.derives_of_read read
  have again := read_source_of_nesting formed (Nat.le_trans (nestingAs_le_of_derives derivation) fits)
  refine ⟨e.source, written, again, fun other reread => ?_⟩
  rw [again] at reread
  cases reread
  exact written

/-- Parentheses, blanks, leading zeros and the sign of zero do not come back. -/
theorem read_canonical_spare :
    let e := call (literal (.int 7)) [literal (.int 0), lambda ["x"] (call (name "x") [])]
    Expr.read Stack.usual.reading " ((007)) ( -0 ,(lambda x:(x)()) )" = .ok (some e) ∧
      e.wellFormed = true ∧ e.source? .usual = .ok "7(0, lambda x: x())" ∧
      Expr.read Stack.usual.reading "7(0, lambda x: x())" = .ok (some e) := by
  intro e
  have read : Expr.read Stack.usual.reading " ((007)) ( -0 ,(lambda x:(x)()) )" = .ok (some e) := rfl
  obtain ⟨formed, back⟩ := read_canonical .usual _ e read
  obtain ⟨text, written, again, -⟩ := back (by decide)
  have known : e.source? .usual = .ok "7(0, lambda x: x())" := rfl
  rw [known] at written
  cases written
  exact ⟨read, formed, known, again⟩

end Expr

end LambdaCalc
