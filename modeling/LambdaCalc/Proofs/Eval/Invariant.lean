import LambdaCalc.Proofs.Environment
import LambdaCalc.Proofs.Eval.Moments

namespace LambdaCalc

section

variable (p : Number → Prop)

/-- Given numbers with the property, whatever number the function answers has it if it is in range. -/
def Host.Keeps (host : Host) : Prop :=
  ∀ numbers, (∀ n ∈ numbers, p n) → ∀ n, (host numbers).result = .ok (.number n) → n.inRange = true → p n

def Expr.Satisfies (e : Expr) : Prop := ∀ n ∈ e.literals, p n

/-- The numbers of a value, in the body of a closure and in all the frames that it keeps. -/
inductive Value.Satisfies : Value → Prop where
  | number {n : Number} (holds : p n) : Satisfies (.number n)
  | closure {serial : Nat} {parameters : List String} {body : Expr} {env : Env}
      (literals : body.Satisfies p) (kept : ∀ frame ∈ env, ∀ var ∈ frame.vars, Satisfies var.2) :
      Satisfies (.closure serial parameters body env)
  | primitive {serial : Nat} {name : String} {host : Host} (keeps : host.Keeps p) :
      Satisfies (.primitive serial name host)

def Env.Satisfies (env : Env) : Prop := ∀ frame ∈ env, ∀ var ∈ frame.vars, var.2.Satisfies p

def Moment.Satisfies : Moment → Prop
  | .evaluating _ env e _ => env.Satisfies p ∧ e.Satisfies p
  | .applying _ fn args _ => fn.Satisfies p ∧ ∀ value ∈ args, value.Satisfies p

def Run.Yields {α : Type} (q : α → Prop) (run : Run α) : Prop := ∀ w v a, run w = (.ok a, v) → q a

end

variable {p : Number → Prop}

namespace Run

variable {α β : Type} {q : α → Prop} {r : β → Prop}

theorem yields_pure {a : α} (holds : q a) : (Run.pure a).Yields q := by
  intro w v b ran
  cases ran
  exact holds

theorem yields_fail (e : EvalError) : (Run.fail e : Run α).Yields q := by
  intro w v a ran
  cases ran

theorem Yields.bind {run : Run α} {next : α → Run β} (first : run.Yields q)
    (rest : ∀ a, q a → (next a).Yields r) : (run.bind next).Yields r := by
  intro w v b ran
  obtain ⟨a, u, before, after⟩ := Run.bind_eq_ok ran
  exact rest a (first w u a before) u v b after

end Run

namespace Expr

theorem mem_literalsAll_of_mem {n : Number} {e : Expr} {es : List Expr} (member : e ∈ es)
    (inside : n ∈ e.literals) : n ∈ literalsAll es := by
  induction es with
  | nil => exact absurd member List.not_mem_nil
  | cons d es ih =>
    rw [literalsAll, List.mem_append]
    rcases List.mem_cons.mp member with rfl | later
    · exact .inl inside
    · exact .inr (ih later)

theorem Satisfies.operator {first : Expr} {operands : List Expr}
    (literals : (call first operands).Satisfies p) : first.Satisfies p :=
  fun n member => literals n (List.mem_append_left _ member)

theorem Satisfies.operand {first e : Expr} {operands : List Expr}
    (literals : (call first operands).Satisfies p) (among : e ∈ operands) : e.Satisfies p :=
  fun n member => literals n (List.mem_append_right _ (mem_literalsAll_of_mem among member))

end Expr

namespace Env

theorem Satisfies.lookup {env : Env} (frames : env.Satisfies p) {name : String} {value : Value}
    (found : env.lookup name = some value) : value.Satisfies p := All.lookup frames found

theorem Satisfies.extend {env : Env} (frames : env.Satisfies p) {values : List Value}
    (each : ∀ value ∈ values, value.Satisfies p) (serial : Nat) (names : List String) :
    (env.extend serial names values).Satisfies p := All.extend frames each serial names

theorem satisfies_ofTable {table : List (String × Host)} (keeps : ∀ entry ∈ table, entry.2.Keeps p)
    (serial : Nat) : (Env.ofTable serial table).Satisfies p := by
  intro frame inside var bound
  obtain ⟨k, name, host, value, entry⟩ := mem_ofTable inside bound
  rw [value]
  exact .primitive (keeps (name, host) entry)

end Env

theorem numbersOf_satisfies {name : String} {args : List Value} {numbers : List Number}
    (each : ∀ value ∈ args, value.Satisfies p) (allNumbers : numbersOf name args = .ok numbers) :
    ∀ n ∈ numbers, p n := by
  intro n member
  have value := each (.number n) (by
    rw [numbersOf_eq_ok_iff.mp allNumbers]
    exact List.mem_map_of_mem member)
  cases value with
  | number holds => exact holds

theorem applyPrimitive_yields {name : String} {host : Host} {args : List Value} (keeps : host.Keeps p)
    (each : ∀ value ∈ args, value.Satisfies p) :
    (applyPrimitive name host args).Yields (Value.Satisfies p) := by
  intro w v value ran
  obtain ⟨ns, n, numbers, result, inside, rfl⟩ := applyPrimitive_eq_ok ran
  exact .number (keeps ns (numbersOf_satisfies each numbers) n result inside)

theorem applyWith_yields {evalBody : Env → Expr → Run Value}
    (each : ∀ env e, env.Satisfies p → e.Satisfies p → (evalBody env e).Yields (Value.Satisfies p))
    {fn : Value} {args : List Value} (function : fn.Satisfies p)
    (arguments : ∀ value ∈ args, value.Satisfies p) :
    (applyWith evalBody fn args).Yields (Value.Satisfies p) := by
  cases function with
  | number holds => exact Run.yields_fail _
  | primitive keeps => exact applyPrimitive_yields keeps arguments
  | @closure serial parameters body env literals kept =>
    by_cases counted : args.length = parameters.length
    · simp only [applyWith, counted, ↓reduceIte]
      have anyNumber : Run.fresh.Yields fun _ => True := fun _ _ _ _ => trivial
      refine anyNumber.bind fun n _ => ?_
      exact each _ body (Env.Satisfies.extend kept arguments n parameters) literals
    · simp only [applyWith, counted, ↓reduceIte]
      exact Run.yields_fail _

theorem evalAll_yields {evalOne : Expr → Run Value} {es : List Expr}
    (each : ∀ e ∈ es, (evalOne e).Yields (Value.Satisfies p)) :
    (evalAll evalOne es).Yields fun values => ∀ value ∈ values, value.Satisfies p := by
  induction es with
  | nil => exact Run.yields_pure fun value member => absurd member List.not_mem_nil
  | cons e rest ih =>
    refine (each e List.mem_cons_self).bind fun value holds => ?_
    refine (ih fun d member => each d (List.mem_cons_of_mem e member)).bind fun values others => ?_
    exact Run.yields_pure (List.forall_mem_cons.mpr ⟨holds, others⟩)

theorem eval_yields (levels : Nat) {env : Env} {e : Expr} (frames : env.Satisfies p)
    (literals : e.Satisfies p) : (eval levels env e).Yields (Value.Satisfies p) := by
  induction levels generalizing env e with
  | zero => exact fun w v value ran => nomatch ran
  | succ levels ih =>
    cases e with
    | literal n => exact Run.yields_pure (.number (literals n (List.mem_singleton.mpr rfl)))
    | name identifier =>
      simp only [eval]
      cases found : env.lookup identifier with
      | some value => exact Run.yields_pure (frames.lookup found)
      | none => exact Run.yields_fail _
    | lambda parameters body =>
      intro w v value ran
      cases ran
      exact .closure literals frames
    | call operator operands =>
      refine (ih frames literals.operator).bind fun fn function => ?_
      refine (evalAll_yields fun e member => ih frames (literals.operand member)).bind fun args arguments => ?_
      exact applyWith_yields (fun _ _ => ih) function arguments

namespace Moment

variable {m later : Moment}

theorem Satisfies.outcome (start : m.Satisfies p) {value : Value} {v : World}
    (ran : m.outcome = (.ok value, v)) : value.Satisfies p := by
  cases m with
  | evaluating levels env e w => exact eval_yields levels start.1 start.2 w v value ran
  | applying levels fn args w =>
    exact applyWith_yields (fun _ _ => eval_yields levels) start.1 start.2 w v value ran

theorem Satisfies.leads (start : m.Satisfies p) (step : m.Leads later) : later.Satisfies p := by
  cases step with
  | operator => exact ⟨start.1, start.2.operator⟩
  | operand first earlier =>
    exact ⟨start.1, start.2.operand (List.mem_append_right _ List.mem_cons_self)⟩
  | @application levels env operator operands fn args u v w first second =>
    have function := eval_yields levels start.1 start.2.operator w u fn first
    have arguments := evalAll_yields (fun e member => eval_yields levels start.1 (start.2.operand member))
      u v args second
    exact ⟨function, arguments⟩
  | body counted =>
    obtain ⟨function, arguments⟩ := start
    cases function with
    | closure literals kept => exact ⟨Env.Satisfies.extend kept arguments _ _, literals⟩

theorem Satisfies.reaches (start : m.Satisfies p) (reached : m.Reaches later) : later.Satisfies p := by
  induction reached with
  | refl => exact start
  | tail _ step ih => exact ih.leads step

theorem Satisfies.has (start : m.Satisfies p) {value : Value} (atHand : m.Has value) : value.Satisfies p := by
  induction atHand with
  | function => exact start.1
  | argument member => exact start.2 _ member
  | bound inside member => exact start.1 _ inside _ member
  | result ran => exact start.outcome ran
  | kept closure inside member ih =>
    cases ih start with
    | closure literals kept => exact kept _ inside _ member

theorem Satisfies.calls (start : m.Satisfies p) {name : String} {host : Host} {numbers : List Number}
    (call : m.Calls name host numbers) : ∀ n ∈ numbers, p n := by
  cases call with
  | primitive allNumbers => exact numbersOf_satisfies start.2 allNumbers

end Moment

end LambdaCalc
