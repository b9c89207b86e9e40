import LambdaCalc.Proofs.Eval.Levels
import Mathlib.Logic.Relation

namespace LambdaCalc

namespace Run

variable {α β : Type} {run : Run α} {next : α → Run β} {v w : World}

theorem bind_eq_ok {b : β} (ran : run.bind next w = (.ok b, v)) :
    ∃ a u, run w = (.ok a, u) ∧ next a u = (.ok b, v) := by
  simp only [Run.bind] at ran
  rcases first : run w with ⟨outcome, u⟩
  rw [first] at ran
  cases outcome with
  | ok a => exact ⟨a, u, rfl, ran⟩
  | error s => cases ran

theorem bind_eq_error {s : Stop} (ran : run.bind next w = (.error s, v)) :
    run w = (.error s, v) ∨ ∃ a u, run w = (.ok a, u) ∧ next a u = (.error s, v) := by
  simp only [Run.bind] at ran
  rcases first : run w with ⟨outcome, u⟩
  rw [first] at ran
  cases outcome with
  | ok a => exact .inr ⟨a, u, rfl, ran⟩
  | error t =>
    cases ran
    exact .inl rfl

end Run

theorem evalAll_eq_error {evalOne : Expr → Run Value} {es : List Expr} {s : Stop} {v w : World}
    (ran : evalAll evalOne es w = (.error s, v)) :
    ∃ before e after values u, es = before ++ e :: after ∧
      evalAll evalOne before w = (.ok values, u) ∧ evalOne e u = (.error s, v) := by
  induction es generalizing w with
  | nil => cases ran
  | cons e rest ih =>
    rcases Run.bind_eq_error ran with here | ⟨value, u, first, later⟩
    · exact ⟨[], e, rest, [], w, rfl, rfl, here⟩
    · rcases Run.bind_eq_error later with there | ⟨values, t, -, impossible⟩
      · obtain ⟨before, d, after, values, t, split, earlier, stopped⟩ := ih there
        refine ⟨e :: before, d, after, value :: values, t, by rw [split, List.cons_append], ?_, stopped⟩
        simp only [evalAll, Run.bind, first, earlier, Run.pure]
      · cases impossible

/-- Where a run may stand: before an evaluation or before an application, with the levels below it. -/
inductive Moment where
  | evaluating (levels : Nat) (env : Env) (e : Expr) (w : World)
  | applying (levels : Nat) (fn : Value) (args : List Value) (w : World)

namespace Moment

def outcome : Moment → Except Stop Value × World
  | evaluating levels env e w => eval levels env e w
  | applying levels fn args w => applyWith (eval levels) fn args w

/-- The moments that come next inside an evaluation or an application: the operator, each operand after
values for those before it, the application after values for all, and the body of an applied closure. -/
inductive Leads : Moment → Moment → Prop where
  | operator {levels : Nat} {env : Env} {operator : Expr} {operands : List Expr} {w : World} :
      Leads (evaluating (levels + 1) env (.call operator operands) w) (evaluating levels env operator w)
  | operand {levels : Nat} {env : Env} {operator operand : Expr} {before after : List Expr} {fn : Value}
      {values : List Value} {u v w : World} (first : eval levels env operator w = (.ok fn, u))
      (earlier : evalAll (eval levels env) before u = (.ok values, v)) :
      Leads (evaluating (levels + 1) env (.call operator (before ++ operand :: after)) w)
        (evaluating levels env operand v)
  | application {levels : Nat} {env : Env} {operator : Expr} {operands : List Expr} {fn : Value}
      {args : List Value} {u v w : World} (first : eval levels env operator w = (.ok fn, u))
      (second : evalAll (eval levels env) operands u = (.ok args, v)) :
      Leads (evaluating (levels + 1) env (.call operator operands) w) (applying levels fn args v)
  | body {levels identity : Nat} {parameters : List String} {body : Expr} {env : Env} {args : List Value}
      {w : World} (counted : args.length = parameters.length) :
      Leads (applying levels (.closure identity parameters body env) args w)
        (evaluating levels (env.extend w.serial parameters args) body { w with serial := w.serial + 1 })

def Reaches : Moment → Moment → Prop := Relation.ReflTransGen Leads

/-- The values at hand: the function and its arguments, or the values of the frames, then the value that
comes of it, and whatever a closure among these keeps in its frames. -/
inductive Has : Moment → Value → Prop where
  | function {levels : Nat} {fn : Value} {args : List Value} {w : World} :
      Has (applying levels fn args w) fn
  | argument {levels : Nat} {fn value : Value} {args : List Value} {w : World} (member : value ∈ args) :
      Has (applying levels fn args w) value
  | bound {levels : Nat} {env : Env} {e : Expr} {w : World} {frame : Frame Value} {var : String × Value}
      (inside : frame ∈ env) (member : var ∈ frame.vars) : Has (evaluating levels env e w) var.2
  | result {m : Moment} {value : Value} {v : World} (ran : m.outcome = (.ok value, v)) : Has m value
  | kept {m : Moment} {identity : Nat} {parameters : List String} {body : Expr} {env : Env}
      {frame : Frame Value} {var : String × Value} (closure : Has m (.closure identity parameters body env))
      (inside : frame ∈ env) (member : var ∈ frame.vars) : Has m var.2

/-- At the moment a host function is called with these numbers. -/
inductive Calls : Moment → String → Host → List Number → Prop where
  | primitive {levels identity : Nat} {name : String} {host : Host} {args : List Value} {w : World}
      {numbers : List Number} (allNumbers : numbersOf name args = .ok numbers) :
      Calls (applying levels (.primitive identity name host) args w) name host numbers

/-- The error arises at the moment itself, not in what it leads to. -/
inductive Raises : Moment → EvalError → Prop where
  | unbound {levels : Nat} {env : Env} {identifier : String} {w : World}
      (absent : env.lookup identifier = none) :
      Raises (evaluating (levels + 1) env (.name identifier) w) (.unbound identifier)
  | arity {levels identity : Nat} {parameters : List String} {body : Expr} {env : Env} {args : List Value}
      {w : World} (mismatch : args.length ≠ parameters.length) :
      Raises (applying levels (.closure identity parameters body env) args w)
        (.arity parameters.length args.length)
  | rejected {levels identity : Nat} {name : String} {host : Host} {args : List Value} {w : World}
      {e : EvalError} (notNumbers : numbersOf name args = .error e) :
      Raises (applying levels (.primitive identity name host) args w) e
  | refused {m : Moment} {name : String} {host : Host} {numbers : List Number} {e : EvalError}
      (call : m.Calls name host numbers) (answer : acceptAnswer name (host numbers).result = .error e) :
      Raises m e
  | number {levels : Nat} {n : Number} {args : List Value} {w : World} :
      Raises (applying levels (.number n) args w) (notCallable (.number n))

variable {levels : Nat} {v w : World} {err : EvalError}

theorem applyPrimitive_raises {identity : Nat} {name : String} {host : Host} {args : List Value}
    (failed : applyPrimitive name host args w = (.error (.error err), v)) :
    (applying levels (.primitive identity name host) args w).Raises err := by
  cases numbers : numbersOf name args with
  | error e =>
    rw [applyPrimitive_error numbers] at failed
    cases failed
    exact .rejected numbers
  | ok ns =>
    rw [applyPrimitive_ok numbers w.calls w.serial] at failed
    cases answer : acceptAnswer name (host ns).result with
    | error e =>
      rw [answer] at failed
      cases failed
      exact .refused (.primitive numbers) answer
    | ok value =>
      rw [answer] at failed
      cases failed

theorem exists_raises_applying
    (each : ∀ env e w v, eval levels env e w = (.error (.error err), v) →
      ∃ m, (evaluating levels env e w).Reaches m ∧ m.Raises err)
    {fn : Value} {args : List Value} (failed : applyWith (eval levels) fn args w = (.error (.error err), v)) :
    ∃ m, (applying levels fn args w).Reaches m ∧ m.Raises err := by
  cases fn with
  | number n =>
    cases failed
    exact ⟨_, .refl, .number⟩
  | primitive identity name host => exact ⟨_, .refl, applyPrimitive_raises failed⟩
  | closure identity parameters body env =>
    by_cases counted : args.length = parameters.length
    · simp only [applyWith, counted, ↓reduceIte, Run.bind, Run.fresh] at failed
      obtain ⟨m, reached, raises⟩ := each _ _ _ _ failed
      exact ⟨m, .head (.body counted) reached, raises⟩
    · simp only [applyWith, counted, ↓reduceIte, Run.fail] at failed
      cases failed
      exact ⟨_, .refl, .arity counted⟩

theorem exists_raises_evaluating {env : Env} {e : Expr}
    (failed : eval levels env e w = (.error (.error err), v)) :
    ∃ m, (evaluating levels env e w).Reaches m ∧ m.Raises err := by
  induction levels generalizing env e w v with
  | zero => cases failed
  | succ levels ih =>
    cases e with
    | literal n => cases failed
    | name identifier =>
      cases found : env.lookup identifier with
      | some value =>
        simp only [eval, found, Run.pure] at failed
        cases failed
      | none =>
        simp only [eval, found, Run.fail] at failed
        cases failed
        exact ⟨_, .refl, .unbound found⟩
    | lambda parameters body => cases failed
    | call operator operands =>
      rcases Run.bind_eq_error failed with first | ⟨fn, u, first, rest⟩
      · obtain ⟨m, reached, raises⟩ := ih first
        exact ⟨m, .head .operator reached, raises⟩
      · rcases Run.bind_eq_error rest with second | ⟨args, t, second, third⟩
        · obtain ⟨before, operand, after, values, t, rfl, earlier, stopped⟩ := evalAll_eq_error second
          obtain ⟨m, reached, raises⟩ := ih stopped
          exact ⟨m, .head (.operand first earlier) reached, raises⟩
        · obtain ⟨m, reached, raises⟩ := exists_raises_applying (fun _ _ _ _ => ih) third
          exact ⟨m, .head (.application first second) reached, raises⟩

/-- The entry is the work of a host function that is called in the run. -/
def Logs (m : Moment) (entry : List Number) : Prop :=
  ∃ later name host numbers, m.Reaches later ∧ later.Calls name host numbers ∧
    entry ∈ (host numbers).entries

theorem Logs.head {m later : Moment} {entry : List Number} (step : m.Leads later)
    (logs : later.Logs entry) : m.Logs entry := by
  obtain ⟨last, name, host, numbers, reached, call, inside⟩ := logs
  exact ⟨last, name, host, numbers, .head step reached, call, inside⟩

theorem mem_calls_bind {α β : Type} {run : Run α} {next : α → Run β} {entry : List Number}
    (member : entry ∈ (run.bind next w).2.calls) :
    entry ∈ (run w).2.calls ∨ ∃ a u, run w = (.ok a, u) ∧ entry ∈ (next a u).2.calls := by
  simp only [Run.bind] at member
  rcases first : run w with ⟨outcome, u⟩
  rw [first] at member
  cases outcome with
  | ok a => exact .inr ⟨a, u, rfl, member⟩
  | error s => exact .inl member

theorem mem_calls_evalAll {evalOne : Expr → Run Value} {adds : Expr → World → Prop} {entry : List Number}
    (each : ∀ e u, entry ∈ (evalOne e u).2.calls → entry ∈ u.calls ∨ adds e u) {es : List Expr}
    (member : entry ∈ (evalAll evalOne es w).2.calls) :
    entry ∈ w.calls ∨ ∃ before e after values u, es = before ++ e :: after ∧
      evalAll evalOne before w = (.ok values, u) ∧ adds e u := by
  induction es generalizing w with
  | nil => exact .inl member
  | cons e rest ih =>
    have here : entry ∈ (evalOne e w).2.calls → entry ∈ w.calls ∨ ∃ before d after values u,
        e :: rest = before ++ d :: after ∧ evalAll evalOne before w = (.ok values, u) ∧ adds d u :=
      fun early => (each e w early).imp_right fun added => ⟨[], e, rest, [], w, rfl, rfl, added⟩
    rcases mem_calls_bind member with early | ⟨value, u, first, later⟩
    · exact here early
    · have tail : entry ∈ (evalAll evalOne rest u).2.calls := by
        rcases mem_calls_bind later with inside | ⟨values, t, second, inside⟩
        · exact inside
        · rw [second]
          exact inside
      rcases ih tail with early | ⟨before, d, after, values, t, split, earlier, added⟩
      · rw [first] at here
        exact here early
      · refine .inr ⟨e :: before, d, after, value :: values, t, by rw [split, List.cons_append], ?_, added⟩
        simp only [evalAll, Run.bind, first, earlier, Run.pure]

theorem mem_calls_applying {entry : List Number}
    (each : ∀ env e w, entry ∈ (eval levels env e w).2.calls →
      entry ∈ w.calls ∨ (evaluating levels env e w).Logs entry)
    {fn : Value} {args : List Value} (member : entry ∈ (applyWith (eval levels) fn args w).2.calls) :
    entry ∈ w.calls ∨ (applying levels fn args w).Logs entry := by
  cases fn with
  | number n => exact .inl member
  | primitive identity name host =>
    simp only [applyWith] at member
    cases numbers : numbersOf name args with
    | error e =>
      rw [applyPrimitive_error numbers] at member
      exact .inl member
    | ok ns =>
      rw [applyPrimitive_ok numbers w.calls w.serial] at member
      rcases List.mem_append.mp member with old | new
      · exact .inl old
      · exact .inr ⟨_, name, host, ns, .refl, .primitive numbers, new⟩
  | closure identity parameters body env =>
    by_cases counted : args.length = parameters.length
    · simp only [applyWith, counted, ↓reduceIte, Run.bind, Run.fresh] at member
      exact (each _ _ _ member).imp_right (Logs.head (.body counted))
    · simp only [applyWith, counted, ↓reduceIte, Run.fail] at member
      exact .inl member

/-- Every entry that is new in the log was left by a host function that the run calls. -/
theorem mem_calls_evaluating {env : Env} {e : Expr} {entry : List Number}
    (member : entry ∈ (eval levels env e w).2.calls) :
    entry ∈ w.calls ∨ (evaluating levels env e w).Logs entry := by
  induction levels generalizing env e w with
  | zero => exact .inl member
  | succ levels ih =>
    cases e with
    | literal n => exact .inl member
    | name identifier =>
      simp only [eval] at member
      cases found : env.lookup identifier with
      | some value =>
        rw [found] at member
        exact .inl member
      | none =>
        rw [found] at member
        exact .inl member
    | lambda parameters body => exact .inl member
    | call operator operands =>
      have front : entry ∈ (eval levels env operator w).2.calls →
          entry ∈ w.calls ∨ (evaluating (levels + 1) env (.call operator operands) w).Logs entry :=
        fun early => (ih early).imp_right (Logs.head .operator)
      rcases mem_calls_bind member with early | ⟨fn, u, first, rest⟩
      · exact front early
      · have middle : entry ∈ (evalAll (eval levels env) operands u).2.calls →
            entry ∈ w.calls ∨ (evaluating (levels + 1) env (.call operator operands) w).Logs entry := by
          intro inside
          rcases mem_calls_evalAll (fun _ _ => ih) inside with early | ⟨before, d, after, values, t, rfl,
            earlier, added⟩
          · rw [first] at front
            exact front early
          · exact .inr (added.head (.operand first earlier))
        rcases mem_calls_bind rest with inside | ⟨args, t, second, third⟩
        · exact middle inside
        · rcases mem_calls_applying (fun _ _ _ => ih) third with early | added
          · rw [second] at middle
            exact middle early
          · exact .inr (added.head (.application first second))

end Moment

end LambdaCalc
