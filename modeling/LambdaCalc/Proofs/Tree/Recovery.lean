import LambdaCalc.Proofs.Eval.Invariant
import LambdaCalc.Proofs.Numeral.Denotation
import LambdaCalc.Proofs.Text.Told
import LambdaCalc.Proofs.Tree.Lines

namespace LambdaCalc

open Text

namespace Number

def isDecimal : Number → Bool
  | int _ => true
  | float x => x.isFinite
  | bool _ => false

theorem splitSign_intText (n : Int) :
    Numeral.splitSign (intText n).toList = (decide (n < 0), Nat.toDigits 10 n.natAbs) := by
  have nonempty : Nat.toDigits 10 n.natAbs ≠ [] := Nat.toDigits_ne_nil
  obtain ⟨c, rest, digits⟩ := List.exists_cons_of_ne_nil nonempty
  have member : c ∈ Nat.toDigits 10 n.natAbs := by
    rw [digits]
    exact List.mem_cons_self
  have digit := Numeral.toDigits_isDigit member
  rw [intText, String.toList_ofList, digits]
  exact Numeral.splitSign_signText _ (Numeral.ne_of_isDigit digit rfl) (Numeral.ne_of_isDigit digit rfl) rest

theorem intText_injective {m n : Int} (same : intText m = intText n) : m = n := by
  have parts := splitSign_intText m
  rw [same, splitSign_intText, Prod.mk.injEq] at parts
  have values : m.natAbs = n.natAbs := calc
    m.natAbs = Nat.ofDigitChars 10 (Nat.toDigits 10 m.natAbs) 0 := Nat.ofDigitChars_ten_toDigits.symm
    _ = Nat.ofDigitChars 10 (Nat.toDigits 10 n.natAbs) 0 := by rw [parts.2]
    _ = n.natAbs := Nat.ofDigitChars_ten_toDigits
  rw [← Numeral.signed_natAbs m, ← Numeral.signed_natAbs n, parts.1, values]

theorem float?_display {x : Binary64} (finite : x.isFinite = true) : Numeral.float? x.display.toList = some x := by
  cases x with
  | infinite negative => contradiction
  | nan tag => contradiction
  | finite negative r =>
    obtain ⟨value, text, display⟩ := Numeral.texts_denote negative r
    rw [Binary64.display, String.toList_ofList, Numeral.float?_eq_of_denotes display text, Numeral.float?_textChars]

theorem display_marked {x : Binary64} (finite : x.isFinite = true) :
    '.' ∈ x.display.toList ∨ 'e' ∈ x.display.toList := by
  cases x with
  | infinite negative => contradiction
  | nan tag => contradiction
  | finite negative r =>
    rw [Binary64.display, String.toList_ofList]
    rcases Numeral.displayChars_cases negative r with same | ⟨-, display⟩
    · obtain ⟨d, body, ⟨pointed⟩, spelled, -⟩ := Numeral.textChars_pointed negative r
      rw [same, spelled]
      exact .inl (List.mem_append_right _ pointed.mem_text)
    · rw [display, Decimal.scientific]
      exact .inr (List.mem_append_right _ (List.mem_append_right _ List.mem_cons_self))

theorem intText_not_marked (n : Int) : ¬('.' ∈ (intText n).toList ∨ 'e' ∈ (intText n).toList) := by
  rw [intText, String.toList_ofList]
  rintro (point | mark)
  · exact Numeral.point_not_mem_signed (fun _ => Numeral.toDigits_isDigit) point
  · cases Numeral.intText_numeral mark

theorem display_injective {m n : Number} (first : m.isDecimal = true) (second : n.isDecimal = true)
    (same : m.display = n.display) : m = n := by
  cases m with
  | bool b => contradiction
  | int k =>
    cases n with
    | bool b => contradiction
    | int l => exact congrArg int (intText_injective same)
    | float y =>
      have marked := display_marked second
      rw [← show intText k = y.display from same] at marked
      exact absurd marked (intText_not_marked k)
  | float x =>
    cases n with
    | bool b => contradiction
    | int l =>
      have marked := display_marked first
      rw [show x.display = intText l from same] at marked
      exact absurd marked (intText_not_marked l)
    | float y =>
      have back := float?_display first
      rw [show x.display = y.display from same, float?_display second] at back
      exact congrArg float (Option.some.inj back).symm

theorem closing_not_mem_display {n : Number} (decimal : n.isDecimal = true) : ')' ∉ n.display.toList := by
  intro member
  cases n with
  | bool b => contradiction
  | int k =>
    rw [display, intText, String.toList_ofList] at member
    cases Numeral.intText_numeral member
  | float x =>
    cases x with
    | infinite negative => contradiction
    | nan tag => contradiction
    | finite negative r =>
      obtain ⟨value, -, denotes⟩ := Numeral.texts_denote negative r
      rw [display, Binary64.display, String.toList_ofList] at member
      rcases denotes.mem member with numeral | mark | sign
      · cases numeral
      · cases mark
      · cases sign

theorem told_display {m n : Number} (first : m.isDecimal = true) (second : n.isDecimal = true) :
    Told (fun n => n.display.toList ++ [')']) m n := by
  intro rest other same
  simp only [List.append_assoc, List.singleton_append] at same
  obtain ⟨texts, ends⟩ := append_cons_inj (closing_not_mem_display first) (closing_not_mem_display second) same
  exact ⟨display_injective first second (String.toList_inj.mp texts), ends⟩

end Number

namespace Expr

inductive Kind where
  | literal
  | name
  | lambda
  | call

def kind : Expr → Kind
  | literal _ => .literal
  | name _ => .name
  | lambda _ _ => .lambda
  | call _ _ => .call

def Kind.opening : Kind → String
  | literal => "Literal("
  | name => "Name("
  | lambda => "LambdaExpr("
  | call => "CallExpr(\n"

def Kind.ofText : List Char → Kind
  | 'N' :: _ => name
  | 'L' :: 'i' :: _ => literal
  | 'L' :: 'a' :: _ => lambda
  | _ => call

theorem Kind.ofText_opening (k : Kind) (rest : List Char) : ofText (k.opening.toList ++ rest) = k := by
  cases k <;> rfl

theorem told_opening (j k : Kind) : Told (fun kind => kind.opening.toList) j k := by
  intro rest other same
  have kinds : j = k := by
    rw [← j.ofText_opening rest, ← k.ofText_opening other]
    exact congrArg Kind.ofText same
  subst kinds
  exact ⟨rfl, List.append_cancel_left same⟩

def closing (indent : Int) : List Char := '\n' :: ((indentation indent).toList ++ [')'])

theorem separator_ne_closing (indent : Int) (rest other : List Char) :
    [',', '\n'] ++ rest ≠ closing indent ++ other := by
  rw [closing, List.cons_append, List.cons_append]
  intro same
  cases (List.cons.inj same).1

def contents (indent : Int) : Expr → List Char
  | literal n => n.display.toList ++ [')']
  | name s => (quoted s).toList ++ [')']
  | lambda parameters body =>
    (bracketed (parameters.map quoted)).toList ++ ([',', '\n'] ++ ((body.tree (indent + 1)).toList ++ closing indent))
  | call operator operands =>
    [',', '\n'].intercalate ((operator :: operands).map fun e => (e.tree (indent + 1)).toList) ++ closing indent

theorem toList_tree (indent : Int) (e : Expr) :
    (e.tree indent).toList = (indentation indent).toList ++ (e.kind.opening.toList ++ e.contents indent) := by
  have close : ")".toList = [')'] := rfl
  have newline : "\n".toList = ['\n'] := rfl
  have comma : ",\n".toList = [',', '\n'] := rfl
  cases e with
  | literal n => simp only [tree, String.toList_append, List.append_assoc, kind, Kind.opening, contents, close]
  | name s => simp only [tree, String.toList_append, List.append_assoc, kind, Kind.opening, contents, close]
  | lambda parameters body =>
    simp only [tree, String.toList_append, List.append_assoc, kind, Kind.opening, contents, close, comma, newline,
      closing, List.cons_append, List.nil_append]
  | call operator operands =>
    simp only [tree, trees_eq_map, String.toList_append, String.toList_intercalate, List.append_assoc, List.map_cons,
      List.map_map, kind, Kind.opening, contents, close, comma, newline, closing, List.cons_append, List.nil_append,
      Function.comp_def]

theorem contents_of_tree {d e : Expr} {indent : Int} {rest other : List Char}
    (same : (d.tree indent).toList ++ rest = (e.tree indent).toList ++ other) :
    d.kind = e.kind ∧ d.contents indent ++ rest = e.contents indent ++ other := by
  rw [toList_tree, toList_tree, List.append_assoc, List.append_assoc, List.append_assoc, List.append_assoc] at same
  exact told_opening d.kind e.kind _ _ (List.append_cancel_left same)

theorem Satisfies.literal {p : Number → Prop} {n : Number} (literals : (Expr.literal n).Satisfies p) : p n := by
  apply literals
  rw [Expr.literals]
  exact List.mem_cons_self

theorem Satisfies.body {p : Number → Prop} {parameters : List String} {body : Expr}
    (literals : (lambda parameters body).Satisfies p) : body.Satisfies p := by
  intro n member
  apply literals
  rw [Expr.literals]
  exact member

theorem Satisfies.part {p : Number → Prop} {operator e : Expr} {operands : List Expr}
    (literals : (call operator operands).Satisfies p) (member : e ∈ operator :: operands) : e.Satisfies p := by
  rcases List.mem_cons.mp member with rfl | among
  · exact literals.operator
  · exact literals.operand among

theorem told_tree {d e : Expr} (first : d.Satisfies (·.isDecimal = true)) (second : e.Satisfies (·.isDecimal = true))
    (indent : Int) : Told (tree indent · |>.toList) d e := by
  -- A child is followed by its siblings and by the end of its node, so the induction is over trees with any text
  -- behind them.
  induction d using structural generalizing e indent with
  | literal m =>
    intro rest other same
    obtain ⟨kinds, inside⟩ := contents_of_tree same
    cases e with
    | literal n =>
      obtain ⟨rfl, ends⟩ := Number.told_display first.literal second.literal rest other inside
      exact ⟨rfl, ends⟩
    | name | lambda | call => cases kinds
  | name s =>
    intro rest other same
    obtain ⟨kinds, inside⟩ := contents_of_tree same
    cases e with
    | name t =>
      rw [contents, contents, List.append_assoc, List.append_assoc] at inside
      obtain ⟨rfl, ends⟩ := told_quoted s t _ _ inside
      exact ⟨rfl, List.append_cancel_left ends⟩
    | literal | lambda | call => cases kinds
  | lambda parameters body inner =>
    intro rest other same
    obtain ⟨kinds, inside⟩ := contents_of_tree same
    cases e with
    | lambda names part =>
      simp only [contents, List.append_assoc] at inside
      obtain ⟨rfl, behind⟩ := told_bracketed parameters names _ _ inside
      have bodies := List.append_cancel_left behind
      obtain ⟨rfl, ends⟩ := inner first.body second.body (indent + 1) _ _ bodies
      exact ⟨rfl, List.append_cancel_left ends⟩
    | literal | name | call => cases kinds
  | call operator operands front back =>
    intro rest other same
    obtain ⟨kinds, inside⟩ := contents_of_tree same
    cases e with
    | call function arguments =>
      have each : ∀ a ∈ operator :: operands, ∀ b ∈ function :: arguments,
          Told (tree (indent + 1) · |>.toList) a b := by
        intro a inside b among
        have plain := first.part inside
        rcases List.mem_cons.mp inside with rfl | operand
        · exact front plain (second.part among) (indent + 1)
        · exact back a operand plain (second.part among) (indent + 1)
      rw [contents, contents, List.append_assoc, List.append_assoc] at inside
      obtain ⟨children, ends⟩ := told_intercalate (separator_ne_closing indent) each inside
      obtain ⟨rfl, rfl⟩ := List.cons.inj children
      exact ⟨rfl, ends⟩
    | literal | name | lambda => cases kinds

theorem tree_of_tree? {stack : Stack} {e : Expr} {indent : Int} {text : String}
    (written : e.tree? stack indent = .ok text) :
    e.tree indent = text := by
  rw [tree?] at written
  cases allowed : e.writable stack.tree with
  | error b =>
    rw [allowed] at written
    cases written
  | ok done =>
    rw [allowed] at written
    exact Except.ok.inj written

/-- The tree text loses nothing: expressions of integers and finite numbers that have the same text at the same
indentation are the same, with the kind and the value of every literal, whatever strings their names are. -/
theorem tree_determines {d e : Expr} (first : d.Satisfies (·.isDecimal = true))
    (second : e.Satisfies (·.isDecimal = true)) (indent : Int) :
    (d.tree indent = e.tree indent → d = e) ∧
    ∀ stack text, d.tree? stack indent = .ok text → e.tree? stack indent = .ok text → d = e := by
  have recovered : d.tree indent = e.tree indent → d = e := by
    intro same
    have texts : (d.tree indent).toList ++ [] = (e.tree indent).toList ++ [] := by rw [same]
    exact (told_tree first second indent [] [] texts).1
  refine ⟨recovered, ?_⟩
  intro stack text written again
  apply recovered
  rw [tree_of_tree? written, tree_of_tree? again]

/-- The same leaves in the same order, nested in another way. -/
theorem tree_determines_nesting :
    let d := call (name "f") [call (name "g") [], literal (.int 1)]
    let e := call (name "f") [call (name "g") [literal (.int 1)]]
    let text := "CallExpr(\n    Name('f'),\n    CallExpr(\n        Name('g')\n    ),\n    Literal(1)\n)"
    d.Satisfies (·.isDecimal = true) ∧ e.Satisfies (·.isDecimal = true) ∧ d.tree? .usual 0 = .ok text ∧
      d.tree 0 ≠ e.tree 0 ∧ e.tree? .usual 0 ≠ .ok text := by
  intro d e text
  have first : d.Satisfies (·.isDecimal = true) := fun n member => by rw [List.mem_singleton.mp member]; rfl
  have second : e.Satisfies (·.isDecimal = true) := fun n member => by rw [List.mem_singleton.mp member]; rfl
  have written : d.tree? .usual 0 = .ok text := rfl
  have different : d ≠ e := by
    intro same
    cases (call.inj same).2
  obtain ⟨texts, results⟩ := tree_determines first second 0
  exact ⟨first, second, written, mt texts different, fun again => different (results .usual text written again)⟩

end Expr

end LambdaCalc
