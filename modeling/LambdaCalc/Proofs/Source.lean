import LambdaCalc.Expr.Text
import LambdaCalc.Proofs.Grammar.Reading
import LambdaCalc.Proofs.Token.Scanning

namespace LambdaCalc.Expr

open Grammar Scanner

mutual

/-- Expressions that have a source text: every literal has a numeral, names and parameters are symbols
but not the keyword, and the parameters of a lambda are distinct. -/
def wellFormed : Expr → Bool
  | literal n => n.hasNumeral
  | name s => isSymbol s && s != Reader.keyword
  | lambda parameters body =>
    parameters.all (fun p => isSymbol p && p != Reader.keyword) && decide parameters.Nodup && body.wellFormed
  | call operator operands => operator.wellFormed && wellFormedAll operands

def wellFormedAll : List Expr → Bool
  | [] => true
  | e :: es => e.wellFormed && wellFormedAll es

end

mutual

def lexemes : Expr → List Lexeme
  | literal n => [.number n.text]
  | name s => [.symbol s]
  | lambda parameters body => lambdaLexemes parameters ++ body.lexemes
  | call operator operands =>
    (if operator.isLambda then .delimiter '(' :: operator.lexemes ++ [.delimiter ')']
      else operator.lexemes) ++
      .delimiter '(' :: [comma].intercalate (lexemesAll operands) ++ [.delimiter ')']

def lexemesAll : List Expr → List (List Lexeme)
  | [] => []
  | e :: es => e.lexemes :: lexemesAll es

end

mutual

/-- The frames for reading the source text: a chain of calls does not add to them, parentheses do. -/
def nesting (room : Room) : Expr → Nat
  | literal _ => 1
  | name _ => 1
  | lambda _ body => body.nesting room + room.body
  | call operator operands =>
    max (if operator.isLambda then operator.nesting room + room.group else operator.nesting room)
      (nestingAll room operands)

def nestingAll (room : Room) : List Expr → Nat
  | [] => 0
  | e :: es => max (e.nesting room + room.operand) (nestingAll room es)

end

@[elab_as_elim]
theorem structural {motive : Expr → Prop} (literal : ∀ n, motive (.literal n))
    (name : ∀ s, motive (.name s))
    (lambda : ∀ parameters body, motive body → motive (.lambda parameters body))
    (call : ∀ operator operands, motive operator → (∀ e ∈ operands, motive e) →
      motive (.call operator operands)) : ∀ e, motive e
  | .literal n => literal n
  | .name s => name s
  | .lambda parameters body => lambda parameters body (structural literal name lambda call body)
  | .call operator operands =>
    call operator operands (structural literal name lambda call operator) fun e _ =>
      structural literal name lambda call e

theorem wellFormedAll_iff {es : List Expr} : wellFormedAll es = true ↔ ∀ e ∈ es, e.wellFormed = true := by
  induction es with
  | nil => simp [wellFormedAll]
  | cons e es ih => simp [wellFormedAll, ih]

variable {room : Room}

def operand (room : Room) (e : Expr) : Operand := ⟨e.nesting room, e.lexemes, e⟩

theorem sources_eq_map (es : List Expr) : sources es = es.map source := by
  induction es with
  | nil => rfl
  | cons e es ih => rw [sources, ih, List.map_cons]

theorem lexemesAll_eq_map (es : List Expr) : lexemesAll es = es.map lexemes := by
  induction es with
  | nil => rfl
  | cons e es ih => rw [lexemesAll, ih, List.map_cons]

theorem operandLexemes_operand (es : List Expr) :
    operandLexemes (es.map (operand room)) = [comma].intercalate (lexemesAll es) := by
  rw [operandLexemes, List.map_map, lexemesAll_eq_map]
  rfl

theorem operandNesting_operand (es : List Expr) :
    operandNesting room (es.map (operand room)) = nestingAll room es := by
  induction es with
  | nil => rfl
  | cons e es ih => rw [List.map_cons, operandNesting_cons, ih, nestingAll, operand]

theorem mem_literalsAll {n : Number} {es : List Expr} (member : n ∈ literalsAll es) :
    ∃ e ∈ es, n ∈ e.literals := by
  induction es with
  | nil => exact absurd member List.not_mem_nil
  | cons e es ih =>
    rw [literalsAll] at member
    rcases List.mem_append.mp member with here | later
    · exact ⟨e, List.mem_cons_self, here⟩
    · obtain ⟨d, inside, found⟩ := ih later
      exact ⟨d, List.mem_cons_of_mem e inside, found⟩

theorem derives_expr {lambda : Bool} {n : Nat} {lexemes : List Lexeme} {e : Expr}
    (derivation : Derives room (if lambda then .expr else .primary) n lexemes e) :
    Derives room .expr n lexemes e := by
  cases lambda with
  | true => exact derivation
  | false => exact .primary derivation

theorem derives_lexemes (e : Expr) (formed : e.wellFormed = true) :
    Derives room (if e.isLambda then .expr else .primary) (e.nesting room) e.lexemes e := by
  induction e using structural with
  | literal n => exact .literal (Number.read_text formed)
  | name s =>
    rw [wellFormed, Bool.and_eq_true, bne_iff_ne] at formed
    exact .name formed.2
  | lambda parameters body inner =>
    simp only [wellFormed, Bool.and_eq_true, List.all_eq_true, bne_iff_ne, decide_eq_true_eq] at formed
    obtain ⟨⟨names, distinct⟩, inside⟩ := formed
    exact .lambda (fun p member => (names p member).2) distinct (derives_expr (inner inside))
  | call operator operands first rest =>
    rw [wellFormed, Bool.and_eq_true, wellFormedAll_iff] at formed
    have front : Derives room .primary (if operator.isLambda then operator.nesting room + room.group else operator.nesting room)
        (if operator.isLambda then .delimiter '(' :: operator.lexemes ++ [.delimiter ')']
          else operator.lexemes) operator := by
      have whole := first formed.1
      by_cases function : operator.isLambda = true
      · simp only [function, ↓reduceIte] at whole ⊢
        exact .group whole
      · simp only [function, Bool.false_eq_true, ↓reduceIte] at whole ⊢
        exact whole
    have inside : ∀ o ∈ operands.map (operand room), Derives room .expr o.nesting o.lexemes o.expr := by
      intro o member
      obtain ⟨e, among, rfl⟩ := List.mem_map.mp member
      exact derives_expr (rest e among (formed.2 e among))
    have whole := Derives.call (operands.map (operand room)) front inside
    have same : (operands.map (operand room)).map Operand.expr = operands := by
      rw [List.map_map]
      exact List.map_id operands
    rwa [same, operandLexemes_operand, operandNesting_operand] at whole

def nestingAs (room : Room) (e : Expr) : Nonterminal → Nat
  | .expr => e.nesting room
  | .primary => if e.isLambda then e.nesting room + room.group else e.nesting room

theorem nestingAll_le_operandNesting {operands : List Operand}
    (each : ∀ o ∈ operands, o.expr.nesting room ≤ o.nesting) :
    nestingAll room (operands.map Operand.expr) ≤ operandNesting room operands := by
  induction operands with
  | nil => exact Nat.le_refl 0
  | cons o operands ih =>
    have here := each o List.mem_cons_self
    have later := ih fun p member => each p (List.mem_cons_of_mem o member)
    rw [List.map_cons, nestingAll, operandNesting_cons]
    omega

/-- No other text of the expression nests less deeply. -/
theorem nestingAs_le_of_derives {nonterminal : Nonterminal} {n : Nat} {lexemes : List Lexeme} {e : Expr}
    (derivation : Derives room nonterminal n lexemes e) : nestingAs room e nonterminal ≤ n := by
  induction derivation with
  | literal numeral | name free => exact Nat.le_refl 1
  | group inside ih =>
    simp only [nestingAs] at ih ⊢
    split <;> omega
  | call operands before inside first rest =>
    exact Nat.max_le.mpr ⟨Nat.le_trans first (Nat.le_max_left _ _),
      Nat.le_trans (nestingAll_le_operandNesting rest) (Nat.le_max_right _ _)⟩
  | primary whole ih =>
    simp only [nestingAs] at ih ⊢
    split at ih <;> omega
  | lambda free distinct inside ih => exact Nat.add_le_add_right ih room.body

theorem spells_intercalate {α : Type} {text : α → String} {piece : α → List Lexeme} {xs : List α}
    (each : ∀ x ∈ xs, Spells (text x) (piece x)) :
    Spells (", ".intercalate (xs.map text)) ([comma].intercalate (xs.map piece)) := by
  induction xs with
  | nil => exact fun rest following separates scans => scans
  | cons x xs ih =>
    intro rest following separates scans
    have later := ih fun y member => each y (List.mem_cons_of_mem x member)
    cases xs with
    | nil =>
      simpa using each x List.mem_cons_self rest following separates scans
    | cons y xs =>
      have tail := scans_blank (c := ' ') rfl (later rest following separates scans)
      have whole := each x List.mem_cons_self _ _ (separates_delimiter rfl _)
        (scans_delimiter (c := ',') rfl tail)
      simpa [comma, String.toList_intercalate, List.intercalate_cons_cons] using whole

theorem parameterLexemes_eq (names : List String) :
    parameterLexemes names = [comma].intercalate (names.map fun p => [.symbol p]) := by
  induction names with
  | nil => rfl
  | cons name names ih =>
    cases names with
    | nil => rfl
    | cons other names =>
      rw [parameterLexemes_cons, ih]
      simp [List.intercalate_cons_cons]

theorem scans_parametersText {names : List String} (symbols : ∀ p ∈ names, isSymbol p = true)
    {rest : List Char} {following : List Lexeme} (scans : Scans rest following) :
    Scans ((parametersText names).toList ++ rest) (lambdaLexemes names ++ following) := by
  have colon : Scans (':' :: ' ' :: rest) (.delimiter ':' :: following) :=
    scans_delimiter rfl (scans_blank rfl scans)
  have keyword := @spells_symbol Reader.keyword rfl
  -- Without parameters the colon follows the keyword directly, otherwise a blank does.
  cases names with
  | nil => exact keyword _ _ (separates_delimiter rfl _) colon
  | cons name names =>
    have spelled := @spells_intercalate _ id (fun p => [.symbol p]) (name :: names)
      fun p member => spells_symbol (symbols p member)
    rw [List.map_id, ← parameterLexemes_eq] at spelled
    have parameters := spelled _ _ (separates_delimiter rfl _) colon
    have whole := keyword _ _ (separates_space _) (scans_blank (c := ' ') rfl parameters)
    have text : parametersText (name :: names) =
        Reader.keyword ++ " " ++ ", ".intercalate (name :: names) ++ ": " := rfl
    simpa [text, lambdaLexemes] using whole

theorem spells_source (e : Expr) (formed : e.wellFormed = true) : Spells e.source e.lexemes := by
  induction e using structural with
  | literal n => exact spells_number formed
  | name s =>
    rw [wellFormed, Bool.and_eq_true] at formed
    exact spells_symbol formed.1
  | lambda parameters body inner =>
    simp only [wellFormed, Bool.and_eq_true, List.all_eq_true] at formed
    intro rest following separates scans
    have whole := scans_parametersText (fun p member => (formed.1.1 p member).1)
      (inner formed.2 rest following separates scans)
    simpa [source, lexemes] using whole
  | call operator operands first rest =>
    rw [wellFormed, Bool.and_eq_true, wellFormedAll_iff] at formed
    intro after following separates scans
    -- From the end of the text: the closing parenthesis, the operands, the opening one, the operator.
    have close := scans_delimiter (c := ')') rfl scans
    have inside := spells_intercalate (fun e member => rest e member (formed.2 e member)) _ _
      (separates_delimiter rfl _) close
    have call := scans_delimiter (c := '(') rfl inside
    rw [source, lexemes, sources_eq_map, lexemesAll_eq_map]
    by_cases function : operator.isLambda = true
    · have body := first formed.1 _ _ (separates_delimiter rfl _) (scans_delimiter (c := ')') rfl call)
      have whole := scans_delimiter (c := '(') rfl body
      simpa [function, parenthesized] using whole
    · have whole := first formed.1 _ _ (separates_delimiter rfl _) call
      simpa [function, parenthesized] using whole

theorem read_eq_none_iff {source : String} :
    Expr.read room source = .ok none ↔ ∀ c ∈ source.toList, Text.isBlank c = true := by
  rw [← Scanner.scan_eq_nil_iff, Expr.read]
  cases Token.scan source with
  | error e => simp [Except.bind]
  | ok tokens =>
    cases tokens with
    | nil => simp [Except.bind]
    | cons t ts =>
      simp only [Except.bind, List.isEmpty_cons, Bool.false_eq_true, ↓reduceIte, Except.ok.injEq,
        List.cons_ne_nil, iff_false]
      intro read
      cases spelled : Expr.ofTokens room (t :: ts) <;> rw [spelled] at read <;> cases read

theorem isWritable_of_mem_literals {n : Number} (e : Expr) (formed : e.wellFormed = true)
    (member : n ∈ e.literals) : n.isWritable = true := by
  induction e using structural with
  | literal m =>
    rw [literals, List.mem_singleton] at member
    exact member ▸ Number.isWritable_of_hasNumeral formed
  | name s => exact absurd member List.not_mem_nil
  | lambda parameters body inner =>
    rw [wellFormed, Bool.and_eq_true] at formed
    exact inner formed.2 member
  | call operator operands first rest =>
    rw [wellFormed, Bool.and_eq_true, wellFormedAll_iff] at formed
    rw [literals] at member
    rcases List.mem_append.mp member with front | back
    · exact first formed.1 front
    · obtain ⟨e, among, inside⟩ := mem_literalsAll back
      exact rest e among (formed.2 e among) inside

variable {stack : Stack}

theorem source?_eq {e : Expr} (formed : e.wellFormed = true) (shallow : e.fits stack.source = true) :
    e.source? stack = .ok e.source := by
  have literals : e.literals.all Number.isWritable = true :=
    List.all_eq_true.mpr fun n => isWritable_of_mem_literals e formed
  simp only [source?, writable, shallow, literals, Bool.not_true, Bool.false_eq_true, ↓reduceIte, Except.map]

theorem read_source_of_nesting {e : Expr} (formed : e.wellFormed = true) (fits : e.nesting room ≤ room.frames) :
    Expr.read room e.source = .ok (some e) := by
  obtain ⟨tokens, scanned, spelled⟩ := scan_of_spells (spells_source e formed)
  have derivation := derives_expr (@derives_lexemes room e formed)
  rw [← spelled] at derivation
  exact (read_eq_some_iff scanned).mpr (ofTokens_of_derives derivation fits)

/-- Writing an expression and reading the text gives back the same tree: names, parameters and the
kind, the value and the sign of every literal. -/
theorem read_source (stack : Stack) (e : Expr) (formed : e.wellFormed = true)
    (shallow : e.fits stack.source = true) (fits : e.nesting stack.reading ≤ stack.reading.frames) :
    e.source? stack = .ok e.source ∧ Expr.read stack.reading e.source = .ok (some e) :=
  ⟨source?_eq formed shallow, read_source_of_nesting formed fits⟩

/-- A lambda in parentheses because it is called, one among the operands without, and a negative zero. -/
theorem read_source_negative_zero :
    let inner := call (name "x") [literal (.float (.zero true)), lambda [] (name "y")]
    let e := call (call (lambda ["x", "y"] inner) [name "f_1", literal (.int (-12))]) []
    e.wellFormed = true ∧ e.fits Stack.usual.source = true ∧
      e.source? .usual = .ok "(lambda x, y: x(-0.0, lambda: y))(f_1, -12)()" ∧
      Expr.read Stack.usual.reading "(lambda x, y: x(-0.0, lambda: y))(f_1, -12)()" = .ok (some e) := by
  intro inner e
  have formed : e.wellFormed = true := by decide
  have shallow : e.fits Stack.usual.source = true := by decide
  have text : e.source = "(lambda x, y: x(-0.0, lambda: y))(f_1, -12)()" := rfl
  have back := read_source .usual e formed shallow (by decide)
  rw [text] at back
  exact ⟨formed, shallow, back⟩

end LambdaCalc.Expr
