import LambdaCalc.Expr

namespace LambdaCalc

inductive Turn where
  | operator
  | operand (index : Nat)
  | body
deriving DecidableEq

/-- The way down to a part of an expression, the last step first. -/
abbrev Place := List Turn

namespace Expr

mutual

/-- The names that no lambda around them binds, from left to right. -/
def freeNames : Expr → List String
  | literal _ => []
  | name identifier => [identifier]
  | lambda parameters body => body.freeNames.filter fun x => !parameters.contains x
  | call operator operands => operator.freeNames ++ freeNamesAll operands

def freeNamesAll : List Expr → List String
  | [] => []
  | e :: es => e.freeNames ++ freeNamesAll es

end

def child? : Expr → Turn → Option Expr
  | lambda _ body, .body => some body
  | call operator _, .operator => some operator
  | call _ operands, .operand index => operands[index]?
  | _, _ => none

def part? (e : Expr) : Place → Option Expr
  | [] => some e
  | turn :: place => (e.part? place).bind (·.child? turn)

/-- The parameters of the lambdas around a place, those of the innermost first. -/
def enclosing (e : Expr) : Place → List (List String)
  | [] => []
  | turn :: place =>
    match turn, e.part? place with
    | .body, some (lambda parameters _) => parameters :: e.enclosing place
    | _, _ => e.enclosing place

theorem mem_freeNames_lambda {x : String} {parameters : List String} {body : Expr} :
    x ∈ (lambda parameters body).freeNames ↔ x ∈ body.freeNames ∧ x ∉ parameters := by
  simp [freeNames]

theorem mem_freeNamesAll {x : String} {es : List Expr} :
    x ∈ freeNamesAll es ↔ ∃ e ∈ es, x ∈ e.freeNames := by
  induction es with
  | nil => simp [freeNamesAll]
  | cons e es ih => simp [freeNamesAll, ih]

theorem mem_freeNames_call {x : String} {operator : Expr} {operands : List Expr} :
    x ∈ (call operator operands).freeNames ↔ x ∈ operator.freeNames ∨ ∃ e ∈ operands, x ∈ e.freeNames := by
  rw [freeNames, List.mem_append, mem_freeNamesAll]

section Places

variable {e d : Expr} {place : Place}

theorem part?_operator {operator : Expr} {operands : List Expr}
    (here : e.part? place = some (call operator operands)) :
    e.part? (.operator :: place) = some operator := by
  rw [part?, here]
  rfl

theorem part?_operand {operator operand : Expr} {before after : List Expr}
    (here : e.part? place = some (call operator (before ++ operand :: after))) :
    e.part? (.operand before.length :: place) = some operand := by
  rw [part?, here, Option.bind_some, child?, List.getElem?_append_right (Nat.le_refl _), Nat.sub_self]
  rfl

theorem part?_body {parameters : List String} {body : Expr}
    (here : e.part? place = some (lambda parameters body)) : e.part? (.body :: place) = some body := by
  rw [part?, here]
  rfl

theorem enclosing_body {parameters : List String} {body : Expr}
    (here : e.part? place = some (lambda parameters body)) :
    e.enclosing (.body :: place) = parameters :: e.enclosing place := by
  simp only [enclosing, here]

theorem mem_enclosing_cons {parameters : List String} (member : parameters ∈ e.enclosing place)
    (turn : Turn) : parameters ∈ e.enclosing (turn :: place) := by
  unfold enclosing
  split
  · exact List.mem_cons_of_mem _ member
  · exact member

theorem mem_freeNames_of_child {turn : Turn} {x : String} (step : d.child? turn = some e)
    (free : x ∈ e.freeNames) :
    x ∈ d.freeNames ∨ ∃ parameters body, turn = .body ∧ d = lambda parameters body ∧ x ∈ parameters := by
  unfold child? at step
  split at step
  · rename_i parameters body
    cases step
    by_cases bound : x ∈ parameters
    · exact .inr ⟨parameters, e, rfl, rfl, bound⟩
    · exact .inl (mem_freeNames_lambda.mpr ⟨free, bound⟩)
  · cases step
    exact .inl (mem_freeNames_call.mpr (.inl free))
  · exact .inl (mem_freeNames_call.mpr (.inr ⟨e, List.mem_of_getElem? step, free⟩))
  · contradiction

theorem mem_freeNames_of_part {x : String} (part : e.part? place = some d) (free : x ∈ d.freeNames)
    (unbound : ∀ parameters ∈ e.enclosing place, x ∉ parameters) : x ∈ e.freeNames := by
  induction place generalizing d with
  | nil =>
    cases part
    exact free
  | cons turn place ih =>
    obtain ⟨outer, above, step⟩ := Option.bind_eq_some_iff.mp part
    have around : ∀ parameters ∈ e.enclosing place, x ∉ parameters := fun parameters member =>
      unbound parameters (mem_enclosing_cons member turn)
    rcases mem_freeNames_of_child step free with outside | ⟨parameters, body, rfl, rfl, bound⟩
    · exact ih above outside around
    · rw [enclosing_body above] at unbound
      exact absurd bound (unbound parameters List.mem_cons_self)

end Places

end Expr

end LambdaCalc
