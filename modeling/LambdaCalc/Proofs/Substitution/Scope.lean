import LambdaCalc.Proofs.Environment
import LambdaCalc.Proofs.Eval.Simulation
import LambdaCalc.Proofs.Substitution
import Mathlib.Data.List.Forall2

namespace LambdaCalc.Substitution

variable {ν : Type}

theorem hide_none (names : List String) : hide names (fun _ => (none : Option ν)) = fun _ => none := by
  funext x
  simp [hide]

theorem hide_or (names : List String) (σ τ : String → Option ν) :
    hide names (fun x => (σ x).or (τ x)) = fun x => (hide names σ x).or (hide names τ x) := by
  funext x
  by_cases member : x ∈ names <;> simp [hide, member]

mutual

theorem Term.subst_none : ∀ t : Term ν, t.subst (fun _ => none) = t
  | .literal n => rfl
  | .name identifier => rfl
  | .lambda parameters body => by rw [subst, hide_none, subst_none body]
  | .call operator operands => by rw [subst, subst_none operator, substAll_none operands]
  | .value v => rfl

theorem Term.substAll_none : ∀ ts : List (Term ν), Term.substAll (fun _ => none) ts = ts
  | [] => rfl
  | t :: ts => by rw [substAll, subst_none t, substAll_none ts]

end

mutual

theorem Term.subst_subst (σ τ : String → Option ν) :
    ∀ t : Term ν, (t.subst σ).subst τ = t.subst fun x => (σ x).or (τ x)
  | .literal n => rfl
  | .name identifier => by
    simp only [subst]
    cases found : σ identifier with
    | none => simp only [subst, Option.none_or]
    | some v => simp only [subst, Option.some_or]
  | .lambda parameters body => by
    simp only [subst]
    rw [subst_subst _ _ body, hide_or]
  | .call operator operands => by
    simp only [subst]
    rw [subst_subst σ τ operator, substAll_substAll σ τ operands]
  | .value v => rfl

theorem Term.substAll_substAll (σ τ : String → Option ν) : ∀ ts : List (Term ν),
    Term.substAll τ (Term.substAll σ ts) = Term.substAll (fun x => (σ x).or (τ x)) ts
  | [] => rfl
  | t :: ts => by
    simp only [substAll]
    rw [subst_subst σ τ t, substAll_substAll σ τ ts]

end

/-- The names that frames bind, with closed values in place of the values there. -/
def framesSubst (frames : Env) (values : String → Closed) : String → Option Closed :=
  fun x => (frames.lookup x).map fun _ => values x

/-- A value and what it is without frames. A closure inside a root is the function whose body has
the frames between the closure and the root put into it, except for the parameters. -/
inductive Corresponds : Value → Closed → Prop where
  | number (n : Number) : Corresponds (.number n) (.number n)
  | closure {serial : Nat} {parameters : List String} {body : Expr} {frames root : Env}
      {values : String → Closed}
      (bound : ∀ x v, frames.lookup x = some v → Corresponds v (values x)) :
      Corresponds (.closure serial parameters body (frames ++ root))
        (.function root parameters
          ((Term.ofExpr body).subst (hide parameters (framesSubst frames values))))
  | primitive (serial : Nat) (name : String) (host : Host) :
      Corresponds (.primitive serial name host) (.primitive serial name host)

theorem corresponds_ofValue (v : Value) : Corresponds v (Closed.ofValue v) := by
  cases v with
  | number n => exact .number n
  | closure serial parameters body env =>
    have bare : framesSubst [] (fun _ => Closed.number (.int 0)) = fun _ => none := rfl
    have whole := @Corresponds.closure serial parameters body [] env (fun _ => Closed.number (.int 0))
      (fun x v found => by cases found)
    rw [bare, hide_none, Term.subst_none] at whole
    exact whole
  | primitive serial name host => exact .primitive serial name host

theorem numbersOf_corresponds {args : List Value} {closed : List Closed} (name : String)
    (same : List.Forall₂ Corresponds args closed) :
    LambdaCalc.numbersOf name args = Closed.numbersOf name closed := by
  induction same with
  | nil => rfl
  | cons first rest ih =>
    cases first with
    | number n => rw [LambdaCalc.numbersOf, Closed.numbersOf, ih]
    | closure bound => rfl
    | primitive serial host => rfl

theorem lookup_corresponds {pairs : List (String × Value)} {closed : List (String × Closed)}
    (same : List.Forall₂ (fun p q => p.1 = q.1 ∧ Corresponds p.2 q.2) pairs closed) (x : String) :
    (pairs.lookup x = none ∧ closed.lookup x = none) ∨
      ∃ v c, pairs.lookup x = some v ∧ closed.lookup x = some c ∧ Corresponds v c := by
  induction same with
  | nil => exact .inl ⟨rfl, rfl⟩
  | @cons p q pairs closed first rest ih =>
    obtain ⟨name, v⟩ := p
    obtain ⟨other, c⟩ := q
    obtain ⟨rfl, value⟩ := first
    rw [Frame.lookup_pair, Frame.lookup_pair]
    by_cases found : x = name
    · exact .inr ⟨v, c, by simp [found], by simp [found], value⟩
    · simpa [found] using ih

theorem zip_corresponds {args : List Value} {closed : List Closed}
    (same : List.Forall₂ Corresponds args closed) (names : List String) :
    List.Forall₂ (fun p q => p.1 = q.1 ∧ Corresponds p.2 q.2) (names.zip args) (names.zip closed) := by
  induction same generalizing names with
  | nil => cases names <;> exact .nil
  | cons first rest ih =>
    cases names with
    | nil => exact .nil
    | cons name names => exact .cons ⟨rfl, first⟩ (ih names)

theorem paired_corresponds {args : List Value} {closed : List Closed}
    (same : List.Forall₂ Corresponds args closed) (names : List String) (x : String) :
    (paired names args x = none ∧ paired names closed x = none) ∨
      ∃ v c, paired names args x = some v ∧ paired names closed x = some c ∧ Corresponds v c :=
  lookup_corresponds (List.rel_reverse (zip_corresponds same names)) x

theorem paired_eq_none_iff {names : List String} {args : List ν}
    (counted : args.length = names.length) (x : String) : paired names args x = none ↔ x ∉ names :=
  Frame.lookup_zip_eq_none_iff counted x

/-- Arguments in place of the parameters, and the values from further out for other names. -/
def argumentsOr (names : List String) (args : List Closed) (values : String → Closed) : String → Closed :=
  fun x => (paired names args x).getD (values x)

section Application

variable {names : List String} {args : List Value} {closed : List Closed} {frames : Env}
  {values : String → Closed}

theorem extend_bound (same : List.Forall₂ Corresponds args closed)
    (bound : ∀ x v, frames.lookup x = some v → Corresponds v (values x)) (serial : Nat) (x : String)
    (v : Value) (found : (frames.extend serial names args).lookup x = some v) :
    Corresponds v (argumentsOr names closed values x) := by
  rw [Env.lookup_extend] at found
  rcases paired_corresponds same names x with ⟨none, other⟩ | ⟨u, c, here, there, value⟩
  · rw [paired] at none
    rw [none, Option.none_or] at found
    simpa only [argumentsOr, other, Option.getD_none] using bound x v found
  · rw [paired] at here
    rw [here, Option.some_or, Option.some.injEq] at found
    simpa only [argumentsOr, there, Option.getD_some, found] using value

/-- Putting the frames into a lambda and then the arguments into its body is the same as putting in the
frames with a new one for the arguments: the lambda hides exactly the names that the arguments take. -/
theorem subst_extend (same : List.Forall₂ Corresponds args closed) (counted : args.length = names.length)
    (serial : Nat) (t : Term Closed) :
    (t.subst (hide names (framesSubst frames values))).subst (paired names closed) =
      t.subst (framesSubst (frames.extend serial names args) (argumentsOr names closed values)) := by
  rw [Term.subst_subst]
  congr 1
  funext x
  have free := paired_eq_none_iff counted x
  have inner : (frames.extend serial names args).lookup x = (paired names args x).or (frames.lookup x) :=
    Env.lookup_extend frames serial names args x
  simp only [hide, framesSubst, inner, argumentsOr]
  rcases paired_corresponds same names x with ⟨none, other⟩ | ⟨u, c, here, there, value⟩
  · simp only [free.mp none, ↓reduceIte, none, other, Option.or_none, Option.none_or, Option.getD_none]
  · have member : x ∈ names := by
      by_contra absent
      rw [free.mpr absent] at here
      cases here
    simp only [member, ↓reduceIte, here, there, Option.none_or, Option.some_or, Option.map_some,
      Option.getD_some]

end Application

def Agrees {α β : Type} (related : α → β → Prop) (run : Run α) (logged : Logged β) : Prop :=
  ∀ w, Matches related (run w).1 logged.1 ∧ (run w).2.calls = w.calls ++ logged.2

namespace Agrees

variable {α β γ δ : Type} {related : α → β → Prop} {next : γ → δ → Prop}

theorem pure {a : α} {b : β} (same : related a b) : Agrees related (Run.pure a) (Logged.pure b) :=
  fun w => ⟨same, (List.append_nil w.calls).symm⟩

theorem fail (e : EvalError) : Agrees related (Run.fail e) (Logged.fail e) :=
  fun w => ⟨rfl, (List.append_nil w.calls).symm⟩

theorem exhausted : Agrees related Run.exhausted Logged.exhausted :=
  fun w => ⟨rfl, (List.append_nil w.calls).symm⟩

theorem log (entries : List (List Number)) :
    Agrees (fun _ _ => True) (Run.log entries) (.ok (), entries) :=
  fun _ => ⟨trivial, rfl⟩

theorem fresh {f : Nat → Run α} {logged : Logged β} (each : ∀ n, Agrees related (f n) logged) :
    Agrees related (Run.fresh.bind f) logged :=
  fun w => each w.serial { w with serial := w.serial + 1 }

theorem ofExcept {outcome : Except EvalError α} (f : α → β) (same : ∀ a, related a (f a)) :
    Agrees related (Run.ofExcept outcome) (Logged.ofExcept (outcome.map f)) := by
  cases outcome with
  | error e => exact fail e
  | ok a => exact pure (same a)

theorem bind {run : Run α} {logged : Logged β} {f : α → Run γ} {g : β → Logged δ}
    (first : Agrees related run logged) (rest : ∀ a b, related a b → Agrees next (f a) (g b)) :
    Agrees next (run.bind f) (logged.bind g) := by
  intro w
  obtain ⟨outcomes, calls⟩ := first w
  obtain ⟨second, entries⟩ := logged
  rcases result : run w with ⟨outcome, v⟩
  simp only [result] at outcomes calls
  cases outcome with
  | error s =>
    cases second with
    | error t =>
      cases outcomes
      simp only [Run.bind, result, Logged.bind]
      exact ⟨rfl, calls⟩
    | ok b => cases outcomes
  | ok a =>
    cases second with
    | error t => cases outcomes
    | ok b =>
      obtain ⟨outcomes, more⟩ := rest a b outcomes v
      simp only [Run.bind, result, Logged.bind]
      exact ⟨outcomes, by rw [more, calls, List.append_assoc]⟩

end Agrees

theorem applyPrimitive_agrees (name : String) (host : Host) {args : List Value} {closed : List Closed}
    (same : List.Forall₂ Corresponds args closed) :
    Agrees Corresponds (LambdaCalc.applyPrimitive name host args) (applyPrimitive name host closed) := by
  have numbers : Agrees Eq (Run.ofExcept (LambdaCalc.numbersOf name args))
      (Logged.ofExcept (Closed.numbersOf name closed)) := by
    rw [numbersOf_corresponds name same]
    cases Closed.numbersOf name closed with
    | error e => exact Agrees.fail e
    | ok ns => exact Agrees.pure rfl
  refine numbers.bind ?_
  rintro ns _ rfl
  refine (Agrees.log (host ns).entries).bind ?_
  intro _ _ _
  exact Agrees.ofExcept Closed.ofValue corresponds_ofValue

theorem evalAll_agrees {evalOne : Expr → Run Value} {evalTerm : Term Closed → Logged Closed}
    {σ : String → Option Closed}
    (each : ∀ e, Agrees Corresponds (evalOne e) (evalTerm ((Term.ofExpr e).subst σ))) (es : List Expr) :
    Agrees (List.Forall₂ Corresponds) (LambdaCalc.evalAll evalOne es)
      (evalAll evalTerm (Term.substAll σ (Term.ofExprs es))) := by
  induction es with
  | nil => exact Agrees.pure .nil
  | cons e rest ih =>
    refine (each e).bind ?_
    intro v c first
    refine ih.bind ?_
    intro vs cs others
    exact Agrees.pure (.cons first others)

theorem applyWith_agrees {levels : Nat}
    (each : ∀ (frames root : Env) (values : String → Closed) (e : Expr),
      (∀ x v, frames.lookup x = some v → Corresponds v (values x)) →
      Agrees Corresponds (LambdaCalc.eval levels (frames ++ root) e)
        (eval levels root ((Term.ofExpr e).subst (framesSubst frames values))))
    {fn : Value} {closed : Closed} (same : Corresponds fn closed) {args : List Value}
    {closedArgs : List Closed} (sameArgs : List.Forall₂ Corresponds args closedArgs) :
    Agrees Corresponds (LambdaCalc.applyWith (LambdaCalc.eval levels) fn args)
      (applyWith (eval levels) closed closedArgs) := by
  have lengths : args.length = closedArgs.length := sameArgs.length_eq
  cases same with
  | number n => exact Agrees.fail _
  | primitive serial name host => exact applyPrimitive_agrees name host sameArgs
  | @closure serial parameters body frames root values bound =>
    simp only [LambdaCalc.applyWith, applyWith, ← lengths]
    by_cases counted : args.length = parameters.length
    · simp only [counted, ↓reduceIte]
      refine Agrees.fresh fun n => ?_
      rw [subst_extend sameArgs counted n]
      exact each (frames.extend n parameters args) root _ body (extend_bound sameArgs bound n)
    · simp only [counted, ↓reduceIte]
      exact Agrees.fail _

theorem eval_agrees (levels : Nat) (frames root : Env) (values : String → Closed) (e : Expr)
    (bound : ∀ x v, frames.lookup x = some v → Corresponds v (values x)) :
    Agrees Corresponds (LambdaCalc.eval levels (frames ++ root) e)
      (eval levels root ((Term.ofExpr e).subst (framesSubst frames values))) := by
  -- For all frames and roots at once: an applied body runs in the frames of its closure, not in these.
  induction levels generalizing frames root values e with
  | zero => exact Agrees.exhausted
  | succ levels ih =>
    cases e with
    | literal n => exact Agrees.pure (.number n)
    | name identifier =>
      simp only [LambdaCalc.eval, Term.ofExpr, Term.subst, framesSubst, Env.lookup_append]
      cases inside : frames.lookup identifier with
      | some v => exact Agrees.pure (bound identifier v inside)
      | none =>
        simp only [Option.none_or, Option.map_none, eval]
        cases root.lookup identifier with
        | some v => exact Agrees.pure (corresponds_ofValue v)
        | none => exact Agrees.fail _
    | lambda parameters body =>
      refine Agrees.fresh fun serial => ?_
      exact Agrees.pure (.closure bound)
    | call operator operands =>
      refine (ih frames root values operator bound).bind ?_
      intro fn closed same
      refine (evalAll_agrees (fun operand => ih frames root values operand bound) operands).bind ?_
      intro args closedArgs sameArgs
      exact applyWith_agrees ih same sameArgs

/-- Evaluation in a root environment agrees with evaluation by substitution: the same calls of host
functions, and the same error or corresponding values. -/
theorem evaluate_substitutes (room : Nat) (limit : Int) (root : Env) (e : Expr) (w : World) :
    (LambdaCalc.evaluate room limit root e w).2.calls = w.calls ++ (evaluate room limit root e).2 ∧
      match (LambdaCalc.evaluate room limit root e w).1, (evaluate room limit root e).1 with
      | .ok v, .ok c => Corresponds v c
      | .error err, .error other => err = other
      | _, _ => False := by
  have bare : framesSubst [] (fun _ => Closed.number (.int 0)) = fun _ => none := rfl
  have agrees := eval_agrees (levelsFor room 0 limit) [] root (fun _ => .number (.int 0)) e
    (fun x v found => by cases found) w
  rw [bare, Term.subst_none, List.nil_append] at agrees
  obtain ⟨outcomes, calls⟩ := agrees
  rw [evaluate_eq, evaluate]
  generalize LambdaCalc.eval (levelsFor room 0 limit) root e w = run at outcomes calls ⊢
  generalize eval (levelsFor room 0 limit) root (Term.ofExpr e) = logged at outcomes calls ⊢
  obtain ⟨first, v⟩ := run
  obtain ⟨second, entries⟩ := logged
  cases first with
  | ok value =>
    cases second with
    | ok closed => exact ⟨calls, outcomes⟩
    | error stop => cases outcomes
  | error stop =>
    cases second with
    | ok closed => cases outcomes
    | error other =>
      cases outcomes
      cases stop with
      | error err => exact ⟨calls, rfl⟩
      | exhausted => exact ⟨calls, rfl⟩

end LambdaCalc.Substitution
