import LambdaCalc.Host.Stock
import LambdaCalc.Proofs.Eval.Levels

namespace LambdaCalc

namespace Run

variable {α β : Type}

/-- Whatever a run comes to, it only adds to the log. -/
def Appends (run : Run α) : Prop := ∀ w, w.calls <+: (run w).2.calls

/-- The run is the longer one, or the longer one up to where the levels of the first are exhausted. -/
def Cuts (run longer : Run α) : Prop :=
  ∀ w, run w = longer w ∨
    ((run w).1 = .error .exhausted ∧ (run w).2.calls <+: (longer w).2.calls)

theorem appends_pure (a : α) : (Run.pure a).Appends := fun w => List.prefix_refl w.calls

theorem appends_fail (e : EvalError) : (Run.fail e : Run α).Appends := fun w => List.prefix_refl w.calls

theorem appends_fresh : Run.fresh.Appends := fun w => List.prefix_refl w.calls

theorem appends_log (entries : List (List Number)) : (Run.log entries).Appends := fun w =>
  List.prefix_append w.calls entries

theorem appends_ofExcept (outcome : Except EvalError α) : (Run.ofExcept outcome).Appends := by
  cases outcome with
  | ok a => exact appends_pure a
  | error e => exact appends_fail e

theorem Appends.bind {run : Run α} {next : α → Run β} (first : run.Appends)
    (rest : ∀ a, (next a).Appends) : (run.bind next).Appends := by
  intro w
  have before := first w
  simp only [Run.bind]
  rcases result : run w with ⟨outcome, v⟩
  rw [result] at before
  cases outcome with
  | ok a => exact before.trans (rest a v)
  | error s => exact before

theorem Cuts.refl (run : Run α) : run.Cuts run := fun _ => .inl rfl

theorem Cuts.bind {run longer : Run α} {next further : α → Run β} (first : run.Cuts longer)
    (rest : ∀ a, (next a).Cuts (further a)) (adds : ∀ a, (further a).Appends) :
    (run.bind next).Cuts (longer.bind further) := by
  intro w
  rcases first w with same | ⟨stopped, early⟩
  · simp only [Run.bind, same]
    rcases longer w with ⟨outcome, v⟩
    cases outcome with
    | ok a => exact rest a v
    | error s => exact .inl rfl
  · -- The longer run may go on here; what follows only adds to its log.
    right
    rcases ran : run w with ⟨outcome, v⟩
    rcases whole : longer w with ⟨other, u⟩
    rw [ran] at stopped early
    rw [whole] at early
    cases stopped
    simp only [Run.bind, ran, whole]
    refine ⟨trivial, ?_⟩
    cases other with
    | ok a => exact early.trans (adds a u)
    | error s => exact early

end Run

theorem applyPrimitive_appends (name : String) (host : Host) (args : List Value) :
    (applyPrimitive name host args).Appends := by
  refine (Run.appends_ofExcept _).bind fun numbers => ?_
  exact (Run.appends_log _).bind fun _ => Run.appends_ofExcept _

theorem applyWith_appends {evalBody : Env → Expr → Run Value}
    (each : ∀ env e, (evalBody env e).Appends) (fn : Value) (args : List Value) :
    (applyWith evalBody fn args).Appends := by
  cases fn with
  | number n => exact Run.appends_fail _
  | primitive serial name host => exact applyPrimitive_appends name host args
  | closure serial parameters body env =>
    by_cases counted : args.length = parameters.length
    · simp only [applyWith, counted, ↓reduceIte]
      exact Run.appends_fresh.bind fun n => each _ body
    · simp only [applyWith, counted, ↓reduceIte]
      exact Run.appends_fail _

theorem evalAll_appends {evalOne : Expr → Run Value} (each : ∀ e, (evalOne e).Appends)
    (es : List Expr) : (evalAll evalOne es).Appends := by
  induction es with
  | nil => exact Run.appends_pure []
  | cons e rest ih =>
    refine (each e).bind fun v => ?_
    exact ih.bind fun vs => Run.appends_pure (v :: vs)

theorem eval_appends (levels : Nat) (env : Env) (e : Expr) : (eval levels env e).Appends := by
  induction levels generalizing env e with
  | zero => exact fun w => List.prefix_refl w.calls
  | succ levels ih =>
    cases e with
    | literal n => exact Run.appends_pure _
    | name identifier =>
      simp only [eval]
      cases env.lookup identifier with
      | some v => exact Run.appends_pure v
      | none => exact Run.appends_fail _
    | lambda parameters body => exact Run.appends_fresh.bind fun serial => Run.appends_pure _
    | call operator operands =>
      refine (ih env operator).bind fun fn => ?_
      exact (evalAll_appends (ih env) operands).bind fun args => applyWith_appends ih fn args

theorem applyWith_cuts {few many : Env → Expr → Run Value}
    (each : ∀ env e, (few env e).Cuts (many env e)) (adds : ∀ env e, (many env e).Appends)
    (fn : Value) (args : List Value) : (applyWith few fn args).Cuts (applyWith many fn args) := by
  cases fn with
  | number n => exact Run.Cuts.refl _
  | primitive serial name host => exact Run.Cuts.refl _
  | closure serial parameters body env =>
    by_cases counted : args.length = parameters.length
    · simp only [applyWith, counted, ↓reduceIte]
      exact (Run.Cuts.refl Run.fresh).bind (fun n => each _ body) fun n => adds _ body
    · simp only [applyWith, counted, ↓reduceIte]
      exact Run.Cuts.refl _

theorem evalAll_cuts {few many : Expr → Run Value} (each : ∀ e, (few e).Cuts (many e))
    (adds : ∀ e, (many e).Appends) (es : List Expr) : (evalAll few es).Cuts (evalAll many es) := by
  induction es with
  | nil => exact Run.Cuts.refl _
  | cons e rest ih =>
    refine (each e).bind (fun v => ?_) fun v => ?_
    · exact ih.bind (fun vs => Run.Cuts.refl _) fun vs => Run.appends_pure _
    · exact (evalAll_appends adds rest).bind fun vs => Run.appends_pure _

theorem eval_cuts {levels more : Nat} (enough : levels ≤ more) (env : Env) (e : Expr) :
    (eval levels env e).Cuts (eval more env e) := by
  -- Both numbers of levels go down together, so the smaller one is the first to reach zero.
  induction levels generalizing more env e with
  | zero => exact fun w => .inr ⟨rfl, eval_appends more env e w⟩
  | succ levels ih =>
    obtain ⟨rest, rfl⟩ : ∃ rest, more = rest + 1 := ⟨more - 1, by omega⟩
    have below : levels ≤ rest := by omega
    cases e with
    | literal n => exact Run.Cuts.refl _
    | name identifier => exact Run.Cuts.refl _
    | lambda parameters body => exact Run.Cuts.refl _
    | call operator operands =>
      have applied := applyWith_cuts (ih below) (eval_appends rest)
      have application := applyWith_appends (eval_appends rest)
      have operandsCut := evalAll_cuts (ih below env) (eval_appends rest env) operands
      have operandsAdd := evalAll_appends (eval_appends rest env) operands
      refine (ih below env operator).bind (fun fn => ?_) fun fn => ?_
      · exact operandsCut.bind (applied fn) (application fn)
      · exact operandsAdd.bind (application fn)

theorem calls_prefix {levels more : Nat} (enough : levels ≤ more) (env : Env) (e : Expr) (w : World) :
    (eval levels env e w).2.calls <+: (eval more env e w).2.calls := by
  rcases eval_cuts enough env e w with same | ⟨-, early⟩
  · exact same ▸ List.prefix_refl _
  · exact early

theorem levelsFor_mono {limit higher : Int} (raised : limit ≤ higher) (room : Nat) (depth : Int) :
    levelsFor room depth limit ≤ levelsFor room depth higher := by
  simp only [levelsFor]
  omega

theorem evaluate_world (room : Nat) (limit : Int) (env : Env) (e : Expr) (w : World) :
    (evaluate room limit env e w).2 = (eval (levelsFor room 0 limit) env e w).2 := by
  rw [evaluate_eq]
  split <;> rename_i result <;> rw [result]

/-- Raising the limit changes no answer and takes back no effect: what evaluation comes to below the
limit, with all that it logs, it comes to below the higher limit, and it is not the report of a limit;
or else it reports its own limit, and its log is the beginning of the other. -/
theorem evaluate_raise_limit (room : Nat) (env : Env) (e : Expr) (w : World) {limit higher : Int}
    (raised : limit ≤ higher) :
    (evaluate room limit env e w = evaluate room higher env e w ∧
      ∀ m, (evaluate room limit env e w).1 ≠ .error (.depth m)) ∨
    ((evaluate room limit env e w).1 = .error (.depth limit) ∧
      (evaluate room limit env e w).2.calls <+: (evaluate room higher env e w).2.calls) := by
  have more := levelsFor_mono raised room 0
  rcases eval_settles_or_exhausted (levelsFor room 0 limit) env e w.serial w.calls with
    ⟨h, c, derivation, enough⟩ | stopped
  · left
    have low := evaluate_of_evaluates derivation enough
    have high := evaluate_of_evaluates derivation (Nat.le_trans enough more)
    rw [low, high]
    exact ⟨rfl, derivation.ne_depth⟩
  · right
    refine ⟨evaluate_of_exhausted stopped, ?_⟩
    rw [evaluate_world, evaluate_world]
    exact calls_prefix more env e w

/-- The third level ends inside the second operand: the call in the first one stays in the log, and one
level more adds those that come after it. -/
theorem evaluate_raise_limit_recorded :
    let env := Env.ofTable 0 [("rec", Host.recorder)]
    let recorded (n : Int) : Expr := .call (.name "rec") [.literal (.int n)]
    let e : Expr := .call (.name "rec") [recorded 1, .call (.name "rec") [recorded 2]]
    (3 : Int) ≤ 4 ∧ (evaluate 9 3 env e {}).1 = .error (.depth 3) ∧
      (evaluate 9 3 env e {}).2.calls = [[.int 1]] ∧
      (evaluate 9 4 env e {}).2.calls = [[.int 1], [.int 2], [.int 2], [.int 1, .int 2]] ∧
      (evaluate 9 3 env e {}).2.calls <+: (evaluate 9 4 env e {}).2.calls := by
  intro env recorded e
  have limited : (evaluate 9 3 env e {}).1 = .error (.depth 3) := rfl
  refine ⟨by decide, limited, rfl, rfl, ?_⟩
  rcases @evaluate_raise_limit 9 env e {} 3 4 (by decide) with ⟨-, other⟩ | ⟨-, early⟩
  · exact absurd limited (other 3)
  · exact early

end LambdaCalc
