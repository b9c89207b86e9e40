import LambdaCalc.Proofs.Environment
import LambdaCalc.Proofs.Eval.Moments
import LambdaCalc.Proofs.Places
import Mathlib.Data.List.Forall2

namespace LambdaCalc

theorem evalAll_eq_ok {evalOne : Expr → Run Value} {es : List Expr} {args : List Value} {v w : World}
    (ran : evalAll evalOne es w = (.ok args, v)) {value : Value} (member : value ∈ args) :
    ∃ before e after values t u, es = before ++ e :: after ∧
      evalAll evalOne before w = (.ok values, t) ∧ evalOne e t = (.ok value, u) := by
  induction es generalizing w args with
  | nil =>
    cases ran
    exact absurd member List.not_mem_nil
  | cons e rest ih =>
    obtain ⟨head, u, first, tail⟩ := Run.bind_eq_ok ran
    obtain ⟨others, t, second, last⟩ := Run.bind_eq_ok tail
    cases last
    rcases List.mem_cons.mp member with rfl | later
    · exact ⟨[], e, rest, [], w, u, rfl, rfl, first⟩
    · obtain ⟨before, d, after, values, s, r, split, earlier, value⟩ := ih second later
      refine ⟨e :: before, d, after, head :: values, s, r, by rw [split, List.cons_append], ?_, value⟩
      simp only [evalAll, Run.bind, first, earlier, Run.pure]

namespace Moment

/-- The moments of a run with their places in the expression. A call is applied at its own place, and
the body of an applied closure stands below the lambda whose evaluation made this closure. -/
inductive Visits (start : Moment) : Place → Moment → Prop where
  | start : Visits start [] start
  | operator {place : Place} {levels : Nat} {env : Env} {operator : Expr} {operands : List Expr} {w : World}
      (call : Visits start place (evaluating (levels + 1) env (.call operator operands) w)) :
      Visits start (.operator :: place) (evaluating levels env operator w)
  | operand {place : Place} {levels : Nat} {env : Env} {operator operand : Expr} {before after : List Expr}
      {fn : Value} {values : List Value} {u v w : World}
      (call : Visits start place
        (evaluating (levels + 1) env (.call operator (before ++ operand :: after)) w))
      (first : eval levels env operator w = (.ok fn, u))
      (earlier : evalAll (eval levels env) before u = (.ok values, v)) :
      Visits start (.operand before.length :: place) (evaluating levels env operand v)
  | application {place : Place} {levels : Nat} {env : Env} {operator : Expr} {operands : List Expr}
      {fn : Value} {args : List Value} {u v w : World}
      (call : Visits start place (evaluating (levels + 1) env (.call operator operands) w))
      (first : eval levels env operator w = (.ok fn, u))
      (second : evalAll (eval levels env) operands u = (.ok args, v)) :
      Visits start place (applying levels fn args v)
  | body {place origin : Place} {levels former : Nat} {parameters : List String} {body : Expr} {env : Env}
      {args : List Value} {u w : World}
      (made : Visits start origin (evaluating (former + 1) env (.lambda parameters body) u))
      (applied : Visits start place (applying levels (.closure u.serial parameters body env) args w))
      (counted : args.length = parameters.length) :
      Visits start (.body :: origin)
        (evaluating levels (env.extend w.serial parameters args) body { w with serial := w.serial + 1 })

variable {start m later : Moment} {place : Place}

theorem Visits.reaches (visit : start.Visits place m) : start.Reaches m := by
  induction visit with
  | start => exact .refl
  | operator _ ih => exact ih.tail .operator
  | operand _ first earlier ih => exact ih.tail (.operand first earlier)
  | application _ first second ih => exact ih.tail (.application first second)
  | body _ _ counted _ ih => exact ih.tail (.body counted)

/-- A number, a primitive of the table, or a closure that a lambda of the run came to, with such values in
all the frames that it keeps. -/
inductive Stems (start : Moment) (table : List (String × Host)) : Value → Prop where
  | number (n : Number) : Stems start table (.number n)
  | primitive {serial : Nat} {name : String} {host : Host} (entry : (name, host) ∈ table) :
      Stems start table (.primitive serial name host)
  | closure {origin : Place} {former : Nat} {parameters : List String} {body : Expr} {env : Env} {u : World}
      (made : start.Visits origin (evaluating (former + 1) env (.lambda parameters body) u))
      (kept : ∀ frame ∈ env, ∀ var ∈ frame.vars, Stems start table var.2) :
      Stems start table (.closure u.serial parameters body env)

variable {table : List (String × Host)}

theorem stems_ofTable (serial : Nat) (table : List (String × Host)) :
    (Env.ofTable serial table).All (start.Stems table) := by
  intro frame inside var bound
  obtain ⟨k, name, host, value, entry⟩ := Env.mem_ofTable inside bound
  rw [value]
  exact .primitive entry

theorem stems_of_applyWith {levels : Nat} {fn : Value} {args : List Value} {value : Value} {v w : World}
    (each : ∀ place env e w v value, start.Visits place (evaluating levels env e w) →
      env.All (start.Stems table) → eval levels env e w = (.ok value, v) → start.Stems table value)
    (visit : start.Visits place (applying levels fn args w)) (function : start.Stems table fn)
    (arguments : ∀ arg ∈ args, start.Stems table arg)
    (ran : applyWith (eval levels) fn args w = (.ok value, v)) : start.Stems table value := by
  cases function with
  | number n => cases ran
  | primitive entry =>
    obtain ⟨-, n, -, -, -, rfl⟩ := applyPrimitive_eq_ok ran
    exact .number n
  | @closure origin former parameters body env u made kept =>
    by_cases counted : args.length = parameters.length
    · simp only [applyWith, counted, ↓reduceIte, Run.bind, Run.fresh] at ran
      exact each _ _ body _ v value (.body made visit counted)
        (Env.All.extend kept arguments w.serial parameters) ran
    · simp only [applyWith, counted, ↓reduceIte, Run.fail] at ran
      cases ran

theorem stems_of_eval {levels : Nat} {env : Env} {e : Expr} {value : Value} {v w : World}
    (visit : start.Visits place (evaluating levels env e w)) (frames : env.All (start.Stems table))
    (ran : eval levels env e w = (.ok value, v)) : start.Stems table value := by
  -- The visit goes along with the induction, since a lambda gives its place to the closure that it makes.
  induction levels generalizing place env e value v w with
  | zero => cases ran
  | succ levels ih =>
    cases e with
    | literal n =>
      cases ran
      exact .number n
    | name identifier =>
      cases found : env.lookup identifier with
      | some bound =>
        simp only [eval, found, Run.pure] at ran
        cases ran
        exact frames.lookup found
      | none =>
        simp only [eval, found, Run.fail] at ran
        cases ran
    | lambda parameters body =>
      cases ran
      exact .closure visit frames
    | call operator operands =>
      obtain ⟨fn, u, first, rest⟩ := Run.bind_eq_ok ran
      obtain ⟨args, t, second, third⟩ := Run.bind_eq_ok rest
      have arguments : ∀ arg ∈ args, start.Stems table arg := by
        intro arg member
        obtain ⟨before, operand, after, values, s, r, rfl, earlier, value⟩ := evalAll_eq_ok second member
        exact ih (.operand visit first earlier) frames value
      exact stems_of_applyWith (fun _ _ _ _ _ _ => ih) (.application visit first second)
        (ih (.operator visit) frames first) arguments third

def Stemming (start : Moment) (table : List (String × Host)) : Moment → Prop
  | evaluating _ env _ _ => env.All (start.Stems table)
  | applying _ fn args _ => start.Stems table fn ∧ ∀ arg ∈ args, start.Stems table arg

theorem Stemming.calls (values : start.Stemming table m) {name : String} {host : Host} {numbers : List Number}
    (call : m.Calls name host numbers) : (name, host) ∈ table := by
  cases call with
  | primitive allNumbers =>
    obtain ⟨function, -⟩ := values
    cases function with
    | primitive entry => exact entry

theorem Visits.leads (visit : start.Visits place m) (values : start.Stemming table m) (step : m.Leads later) :
    ∃ next, start.Visits next later ∧ start.Stemming table later := by
  cases step with
  | operator => exact ⟨_, .operator visit, values⟩
  | operand first earlier => exact ⟨_, .operand visit first earlier, values⟩
  | application first second =>
    refine ⟨_, .application visit first second, stems_of_eval (.operator visit) values first, ?_⟩
    intro arg member
    obtain ⟨before, operand, after, others, s, r, rfl, earlier, value⟩ := evalAll_eq_ok second member
    exact stems_of_eval (.operand visit first earlier) values value
  | body counted =>
    obtain ⟨function, arguments⟩ := values
    cases function with
    | closure made kept => exact ⟨_, .body made visit counted, Env.All.extend kept arguments _ _⟩

theorem exists_visits {levels serial : Nat} {e : Expr} {w : World}
    (reached : (evaluating levels (Env.ofTable serial table) e w).Reaches m) :
    ∃ place, (evaluating levels (Env.ofTable serial table) e w).Visits place m ∧
      (evaluating levels (Env.ofTable serial table) e w).Stemming table m := by
  induction reached with
  | refl => exact ⟨[], .start, stems_ofTable serial table⟩
  | tail _ step ih =>
    obtain ⟨place, visit, stemming⟩ := ih
    exact visit.leads stemming step

/-- The part of `e` at the place is evaluated, and the frames inside the root bind the parameters of the
lambdas around the place, one frame for each lambda. -/
def Placed (e : Expr) (root : Env) (place : Place) : Moment → Prop
  | evaluating _ env part _ => e.part? place = some part ∧
      ∃ frames, env = frames ++ root ∧ List.Forall₂ Frame.BindsExactly frames (e.enclosing place)
  | applying _ _ _ _ => True

theorem Visits.placed {levels : Nat} {root : Env} {e : Expr} {w : World}
    (visit : (evaluating levels root e w).Visits place m) : m.Placed e root place := by
  induction visit with
  | start => exact ⟨rfl, [], rfl, .nil⟩
  | operator _ ih => exact ⟨Expr.part?_operator ih.1, ih.2⟩
  | operand _ _ _ ih => exact ⟨Expr.part?_operand ih.1, ih.2⟩
  | application => trivial
  | @body _ origin _ _ parameters body env args u w _ _ counted ih _ =>
    obtain ⟨here, frames, rfl, binding⟩ := ih
    refine ⟨Expr.part?_body here, Frame.ofPairs w.serial (parameters.zip args) :: frames, rfl, ?_⟩
    rw [Expr.enclosing_body here]
    exact .cons (Frame.bindsExactly_ofPairs w.serial counted) binding

end Moment

end LambdaCalc
