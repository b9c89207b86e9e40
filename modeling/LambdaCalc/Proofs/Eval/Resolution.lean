import LambdaCalc.Host.Stock
import LambdaCalc.Proofs.Eval.Visits

namespace LambdaCalc

theorem Env.find?_append {frames : Env} {scopes : List (List String)}
    (binding : List.Forall₂ Frame.BindsExactly frames scopes) (root : Env) (x : String) :
    Env.find? (frames ++ root) x =
      match scopes.findIdx? (·.contains x) with
      | some steps => (frames ++ root)[steps]?
      | none => root.find? x := by
  induction binding with
  | nil => rfl
  | @cons frame parameters frames scopes first rest ih =>
    have here : frame.binds x = parameters.contains x := by
      rw [Bool.eq_iff_iff, first x, List.contains_iff_mem]
    rw [List.cons_append, Env.find?, List.find?_cons, here, List.findIdx?_cons]
    cases parameters.contains x with
    | true => rfl
    | false =>
      rw [Env.find?] at ih
      simp only [Bool.false_eq_true, ↓reduceIte, ih]
      cases scopes.findIdx? (·.contains x) <;> rfl

theorem Env.lookup_eq_none_of_append {frames root : Env} {scopes : List (List String)}
    (binding : List.Forall₂ Frame.BindsExactly frames scopes) {x : String}
    (absent : (frames ++ root).lookup x = none) :
    (∀ parameters ∈ scopes, x ∉ parameters) ∧ root.lookup x = none := by
  induction binding with
  | nil => exact ⟨fun parameters member => absurd member List.not_mem_nil, absent⟩
  | cons first rest ih =>
    rw [List.cons_append, lookup_cons, Option.or_eq_none_iff, ← Frame.binds_eq_false_iff] at absent
    obtain ⟨inner, outer⟩ := ih absent.2
    have unbound := Bool.eq_false_iff.mp absent.1
    rw [Ne, first x] at unbound
    exact ⟨List.forall_mem_cons.mpr ⟨unbound, inner⟩, outer⟩

namespace Moment

theorem raises_unbound {m : Moment} {x : String} (raises : m.Raises (.unbound x)) :
    ∃ levels env w, m = evaluating (levels + 1) env (.name x) w ∧ env.lookup x = none := by
  generalize same : EvalError.unbound x = err at raises
  cases raises with
  | unbound absent =>
    cases same
    exact ⟨_, _, _, rfl, absent⟩
  | arity mismatch => cases same
  | rejected notNumbers =>
    obtain ⟨detail, other⟩ := numbersOf_eq_error notNumbers
    rw [other] at same
    cases same
  | refused call answer =>
    rcases acceptAnswer_eq_error answer with ⟨detail, other⟩ | ⟨f, other⟩ <;>
    · rw [other] at same
      cases same
  | @number _ n =>
    rcases notCallable_cases (.number n) with ⟨shown, other⟩ | ⟨f, other⟩ <;>
    · rw [other] at same
      cases same

theorem raises_of_evaluate {room : Nat} {limit : Int} {env : Env} {e : Expr} {w : World} {err : EvalError}
    (failed : (evaluate room limit env e w).1 = .error err) (below : err ≠ .depth limit) :
    ∃ m, (evaluating (levelsFor room 0 limit) env e w).Reaches m ∧ m.Raises err := by
  rw [evaluate_eq] at failed
  rcases ran : eval (levelsFor room 0 limit) env e w with ⟨outcome, v⟩
  rw [ran] at failed
  cases outcome with
  | ok value => cases failed
  | error stop =>
    cases stop with
    | error other =>
      cases failed
      exact exists_raises_evaluating ran
    | exhausted =>
      cases failed
      exact absurd rfl below

end Moment

/-- Name resolution is static. Every moment of a run over a table stands at a place in the expression;
when it evaluates a name, the name is what stands there, the frames inside the root bind the parameters
of the lambdas around that place, one frame for each lambda, and the name is found as many frames out as
there are lambdas inside the innermost one that binds it, or in the root if none does. So a name is
reported as unbound only if it is free and not in the table. -/
theorem evaluate_resolves (table : List (String × Host)) (serial : Nat) (room : Nat) (limit : Int) (e : Expr) (w : World) :
    let root := Env.ofTable serial table
    let start := Moment.evaluating (levelsFor room 0 limit) root e w
    (∀ m, start.Reaches m ↔ ∃ place, start.Visits place m) ∧
    (∀ place levels env x v, start.Visits place (.evaluating levels env (.name x) v) →
      e.part? place = some (.name x) ∧
      (∃ frames, env = frames ++ root ∧ List.Forall₂ Frame.BindsExactly frames (e.enclosing place)) ∧
      env.find? x =
        match (e.enclosing place).findIdx? (·.contains x) with
        | some steps => env[steps]?
        | none => root.find? x) ∧
    (∀ x, (evaluate room limit root e w).1 = .error (.unbound x) →
      x ∈ e.freeNames ∧ x ∉ table.map Prod.fst) ∧
    ((∀ x ∈ e.freeNames, x ∈ table.map Prod.fst) → ∀ x, (evaluate room limit root e w).1 ≠ .error (.unbound x)) := by
  intro root start
  have visited : ∀ m, start.Reaches m → ∃ place, start.Visits place m := by
    intro m reached
    obtain ⟨place, visit, -⟩ := Moment.exists_visits reached
    exact ⟨place, visit⟩
  have unbound : ∀ x, (evaluate room limit root e w).1 = .error (.unbound x) →
      x ∈ e.freeNames ∧ x ∉ table.map Prod.fst := by
    intro x failed
    obtain ⟨m, reached, raises⟩ := Moment.raises_of_evaluate failed (by simp)
    obtain ⟨levels, env, v, rfl, absent⟩ := Moment.raises_unbound raises
    obtain ⟨place, visit⟩ := visited _ reached
    obtain ⟨part, frames, rfl, binding⟩ := visit.placed
    obtain ⟨around, outside⟩ := Env.lookup_eq_none_of_append binding absent
    exact ⟨Expr.mem_freeNames_of_part part (List.mem_singleton.mpr rfl) around,
      Env.lookup_ofTable_eq_none_iff.mp outside⟩
  refine ⟨?_, ?_, unbound, ?_⟩
  · intro m
    refine ⟨visited m, ?_⟩
    rintro ⟨place, visit⟩
    exact visit.reaches
  · intro place levels env x v visit
    obtain ⟨part, frames, rfl, binding⟩ := visit.placed
    exact ⟨part, ⟨frames, rfl, binding⟩, Env.find?_append binding root x⟩
  · intro known x failed
    obtain ⟨free, absent⟩ := unbound x failed
    exact absent (known x free)

/-- A closure that is called where `x` stands for 5. Its own `x` is free, and the frame of the caller is
not among those that it is looked up in. -/
theorem evaluate_resolves_caller :
    let table := [("rec", Host.recorder)]
    let e : Expr := .call (.lambda ["f", "x"] (.call (.name "f") [.name "x"]))
      [.lambda ["y"] (.name "x"), .literal (.int 5)]
    let start := Moment.evaluating (levelsFor 9 0 9) (Env.ofTable 0 table) e {}
    (evaluate 9 9 (Env.ofTable 0 table) e {}).1 = .error (.unbound "x") ∧ "x" ∈ e.freeNames ∧
      ∃ levels env v, start.Visits [.body, .operand 0] (.evaluating levels env (.name "x") v) ∧
        e.enclosing [.body, .operand 0] = [["y"]] ∧ env.find? "x" = none := by
  intro table e start
  have failed : (evaluate 9 9 (Env.ofTable 0 table) e {}).1 = .error (.unbound "x") := rfl
  obtain ⟨-, names, unbound, -⟩ := evaluate_resolves table 0 9 9 e {}
  have call : start.Visits [] (.evaluating 9 (Env.ofTable 0 table) e {}) := .start
  have lambda := Moment.Visits.operator call
  have body := Moment.Visits.body lambda (.application call rfl rfl) rfl
  have inner := Moment.Visits.body (@Moment.Visits.operand _ _ _ _ _ _ [] _ _ _ _ _ _ call rfl rfl)
    (.application body rfl rfl) rfl
  exact ⟨failed, (unbound "x" failed).1, _, _, _, inner, rfl, (names _ _ _ _ _ inner).2.2⟩

end LambdaCalc
