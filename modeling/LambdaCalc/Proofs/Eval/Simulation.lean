import LambdaCalc.Proofs.Eval.Levels
import Mathlib.Data.List.Forall2

namespace LambdaCalc

def Matches {ε α β : Type} (related : α → β → Prop) : Except ε α → Except ε β → Prop
  | .ok a, .ok b => related a b
  | .error s, .error t => s = t
  | _, _ => False

namespace Run

variable {α β γ δ : Type} {related : α → β → Prop} {next : γ → δ → Prop}

/-- From whatever worlds the two runs start, they log the same calls, and their outcomes agree. -/
def Parallel (related : α → β → Prop) (first : Run α) (second : Run β) : Prop :=
  ∀ v w, Matches related (first v).1 (second w).1 ∧
    ∃ calls, (first v).2.calls = v.calls ++ calls ∧ (second w).2.calls = w.calls ++ calls

theorem parallel_pure {a : α} {b : β} (same : related a b) : Parallel related (Run.pure a) (Run.pure b) :=
  fun v w => ⟨same, [], (List.append_nil v.calls).symm, (List.append_nil w.calls).symm⟩

theorem parallel_fail (e : EvalError) : Parallel related (Run.fail e) (Run.fail e) :=
  fun v w => ⟨rfl, [], (List.append_nil v.calls).symm, (List.append_nil w.calls).symm⟩

theorem parallel_exhausted : Parallel related Run.exhausted Run.exhausted :=
  fun v w => ⟨rfl, [], (List.append_nil v.calls).symm, (List.append_nil w.calls).symm⟩

theorem parallel_log (entries : List (List Number)) :
    Parallel (fun _ _ => True) (Run.log entries) (Run.log entries) :=
  fun _ _ => ⟨trivial, entries, rfl, rfl⟩

theorem parallel_fresh {f : Nat → Run α} {g : Nat → Run β} (each : ∀ m n, Parallel related (f m) (g n)) :
    Parallel related (Run.fresh.bind f) (Run.fresh.bind g) :=
  fun v w => each v.serial w.serial { v with serial := v.serial + 1 } { w with serial := w.serial + 1 }

theorem parallel_ofExcept {related : α → α → Prop} (outcome : Except EvalError α)
    (same : ∀ a, outcome = .ok a → related a a) :
    Parallel related (Run.ofExcept outcome) (Run.ofExcept outcome) := by
  cases outcome with
  | error e => exact parallel_fail e
  | ok a => exact parallel_pure (same a rfl)

theorem Parallel.bind {run : Run α} {other : Run β} {f : α → Run γ} {g : β → Run δ}
    (first : Parallel related run other) (rest : ∀ a b, related a b → Parallel next (f a) (g b)) :
    Parallel next (run.bind f) (other.bind g) := by
  intro v w
  obtain ⟨outcomes, calls, logged, alike⟩ := first v w
  rcases one : run v with ⟨outcome, s⟩
  rcases two : other w with ⟨answer, t⟩
  rw [one, two] at outcomes
  rw [one] at logged
  rw [two] at alike
  simp only [Run.bind, one, two]
  cases outcome with
  | error stop =>
    cases answer with
    | error _ => exact ⟨outcomes, calls, logged, alike⟩
    | ok b => cases outcomes
  | ok a =>
    cases answer with
    | error _ => cases outcomes
    | ok b =>
      obtain ⟨ends, more, loggedMore, alikeMore⟩ := rest a b outcomes s t
      refine ⟨ends, calls ++ more, ?_, ?_⟩
      · rw [loggedMore, logged, List.append_assoc]
      · rw [alikeMore, alike, List.append_assoc]

end Run

theorem rel_getElem? {α β : Type} {related : α → β → Prop} {as : List α} {bs : List β}
    (same : List.Forall₂ related as bs) (i : Nat) : Option.Rel related as[i]? bs[i]? := by
  induction same generalizing i with
  | nil => exact .none
  | cons first rest ih =>
    cases i with
    | zero => exact .some first
    | succ i => exact ih i

theorem Env.rel_lookup_extend {related : Value → Value → Prop} {env sub : Env} {names others : List String}
    {args images : List Value} {x y : String} (same : List.Forall₂ related args images)
    (counted : args.length = names.length) (fits : others.length = names.length)
    (position : names.reverse.idxOf x = others.reverse.idxOf y)
    (outer : x ∉ names → Option.Rel related (env.lookup x) (sub.lookup y)) (m n : Nat) :
    Option.Rel related ((env.extend m names args).lookup x) ((sub.extend n others images).lookup y) := by
  have inner : Option.Rel related ((names.zip args).reverse.lookup x)
      ((others.zip images).reverse.lookup y) := by
    have reached : images.length = others.length := by rw [← same.length_eq, counted, fits]
    rw [Frame.lookup_zip_reverse counted, Frame.lookup_zip_reverse reached, position]
    exact rel_getElem? (List.rel_reverse same) _
  have absent := (Frame.lookup_zip_eq_none_iff counted x).mp
  rw [lookup_extend, lookup_extend]
  generalize (names.zip args).reverse.lookup x = value at inner absent ⊢
  generalize (others.zip images).reverse.lookup y = image at inner ⊢
  -- One of the frames has the name only if the other has it too.
  cases inner with
  | some related => exact .some related
  | none => exact outer (absent rfl)

section Simulation

variable (values : Value → Value → Prop) (states : Env → Expr → Env → Expr → Prop)

/-- What two values owe each other: closures take as many arguments, and related arguments put their
bodies into related states. -/
inductive ValuesFit : Value → Value → Prop where
  | number {n : Number} : ValuesFit (.number n) (.number n)
  | primitive {serial : Nat} {name : String} {host : Host} :
      ValuesFit (.primitive serial name host) (.primitive serial name host)
  | closure {serial other : Nat} {parameters renamed : List String} {body image : Expr} {env sub : Env}
      (counted : renamed.length = parameters.length)
      (applied : ∀ m n args images, args.length = parameters.length → List.Forall₂ values args images →
        states (env.extend m parameters args) body (sub.extend n renamed images) image) :
      ValuesFit (.closure serial parameters body env) (.closure other renamed image sub)

/-- What two expressions owe each other in their environments. -/
inductive StatesFit (env sub : Env) : Expr → Expr → Prop where
  | literal {n : Number} : StatesFit env sub (.literal n) (.literal n)
  | name {x y : String} (same : Option.Rel values (env.lookup x) (sub.lookup y))
      (unbound : env.lookup x = none → x = y) : StatesFit env sub (.name x) (.name y)
  | lambda {parameters renamed : List String} {body image : Expr}
      (same : ∀ m n, values (.closure m parameters body env) (.closure n renamed image sub)) :
      StatesFit env sub (.lambda parameters body) (.lambda renamed image)
  | call {operator image : Expr} {operands images : List Expr} (first : states env operator sub image)
      (rest : List.Forall₂ (fun e d => states env e sub d) operands images) :
      StatesFit env sub (.call operator operands) (.call image images)

structure Simulation : Prop where
  number : ∀ n, values (.number n) (.number n)
  value : ∀ {a b}, values a b → ValuesFit values states a b
  state : ∀ {env e sub d}, states env e sub d → StatesFit values states env sub e d

end Simulation

namespace Simulation

variable {values : Value → Value → Prop} {states : Env → Expr → Env → Expr → Prop}

theorem numbersOf_eq (simulation : Simulation values states) (name : String) {args images : List Value}
    (same : List.Forall₂ values args images) : numbersOf name args = numbersOf name images := by
  induction same with
  | nil => rfl
  | cons first rest ih =>
    cases simulation.value first with
    | number => rw [numbersOf, numbersOf, ih]
    | primitive => rfl
    | closure counted applied => rfl

theorem applyPrimitive_parallel (simulation : Simulation values states) (name : String) (host : Host)
    {args images : List Value} (same : List.Forall₂ values args images) :
    (applyPrimitive name host args).Parallel values (applyPrimitive name host images) := by
  have numbers := Run.parallel_ofExcept (numbersOf name args) fun ns _ => Eq.refl ns
  rw [applyPrimitive, applyPrimitive, ← simulation.numbersOf_eq name same]
  refine numbers.bind ?_
  rintro ns _ rfl
  refine (Run.parallel_log (host ns).entries).bind ?_
  intro _ _ _
  refine Run.parallel_ofExcept _ ?_
  intro answer accepted
  obtain ⟨n, -, -, rfl⟩ := acceptAnswer_eq_ok accepted
  exact simulation.number n

theorem evalAll_parallel {evalOne evalOther : Expr → Run Value} {related : Expr → Expr → Prop}
    (each : ∀ e d, related e d → (evalOne e).Parallel values (evalOther d)) {es ds : List Expr}
    (same : List.Forall₂ related es ds) :
    (evalAll evalOne es).Parallel (List.Forall₂ values) (evalAll evalOther ds) := by
  induction same with
  | nil => exact Run.parallel_pure .nil
  | cons first rest ih =>
    refine (each _ _ first).bind ?_
    intro a b head
    refine ih.bind ?_
    intro as bs tail
    exact Run.parallel_pure (.cons head tail)

theorem applyWith_parallel (simulation : Simulation values states) {evalBody : Env → Expr → Run Value}
    (each : ∀ env e sub d, states env e sub d → (evalBody env e).Parallel values (evalBody sub d))
    {fn image : Value} {args images : List Value} (function : values fn image)
    (arguments : List.Forall₂ values args images) :
    (applyWith evalBody fn args).Parallel values (applyWith evalBody image images) := by
  cases simulation.value function with
  | number => exact Run.parallel_fail _
  | primitive => exact simulation.applyPrimitive_parallel _ _ arguments
  | @closure serial other parameters renamed body bodyImage env sub counted applied =>
    simp only [applyWith, counted, ← arguments.length_eq]
    by_cases complete : args.length = parameters.length
    · simp only [complete, ↓reduceIte]
      exact Run.parallel_fresh fun m n => each _ _ _ _ (applied m n args images complete arguments)
    · simp only [complete, ↓reduceIte]
      exact Run.parallel_fail _

theorem eval_parallel (simulation : Simulation values states) (levels : Nat) {env sub : Env} {e d : Expr}
    (related : states env e sub d) : (eval levels env e).Parallel values (eval levels sub d) := by
  -- Operator, operands and applied bodies all run with one level less, the bodies in other environments.
  induction levels generalizing env sub e d with
  | zero => exact Run.parallel_exhausted
  | succ levels ih =>
    cases simulation.state related with
    | literal => exact Run.parallel_pure (simulation.number _)
    | @name x y same unbound =>
      simp only [eval]
      generalize env.lookup x = value at same unbound ⊢
      generalize sub.lookup y = image at same ⊢
      cases same with
      | some related => exact Run.parallel_pure related
      | none =>
        cases unbound rfl
        exact Run.parallel_fail _
    | lambda same => exact Run.parallel_fresh fun m n => Run.parallel_pure (same m n)
    | call first rest =>
      refine (ih first).bind ?_
      intro fn image function
      refine (evalAll_parallel (fun _ _ same => ih same) rest).bind ?_
      intro args images arguments
      exact simulation.applyWith_parallel (fun _ _ _ _ => ih) function arguments

theorem evaluate_parallel (simulation : Simulation values states) (room : Nat) (limit : Int) {env sub : Env} {e d : Expr}
    (related : states env e sub d) (v w : World) :
    Matches values (evaluate room limit env e v).1 (evaluate room limit sub d w).1 ∧
      ∃ calls, (evaluate room limit env e v).2.calls = v.calls ++ calls ∧
        (evaluate room limit sub d w).2.calls = w.calls ++ calls := by
  have parallel := simulation.eval_parallel (levelsFor room 0 limit) related v w
  rw [evaluate_eq, evaluate_eq]
  generalize eval (levelsFor room 0 limit) env e v = one at parallel ⊢
  generalize eval (levelsFor room 0 limit) sub d w = two at parallel ⊢
  obtain ⟨outcome, s⟩ := one
  obtain ⟨answer, t⟩ := two
  obtain ⟨outcomes, logged⟩ := parallel
  cases outcome with
  | ok a =>
    cases answer with
    | ok b => exact ⟨outcomes, logged⟩
    | error stop => cases outcomes
  | error stop =>
    cases answer with
    | ok b => cases outcomes
    | error other =>
      cases outcomes
      cases stop with
      | error err => exact ⟨rfl, logged⟩
      | exhausted => exact ⟨rfl, logged⟩

end Simulation

end LambdaCalc
