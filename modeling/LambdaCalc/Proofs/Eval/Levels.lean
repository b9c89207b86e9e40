import LambdaCalc.Proofs.Eval.BigStep

namespace LambdaCalc

def Conclusion.run {α : Type} (c : Conclusion α) (log : List (List Number)) : Except Stop α × World :=
  (c.outcome.mapError .error, ⟨log ++ c.calls, c.serial⟩)

namespace Conclusion

variable {α β : Type}

theorem run_value (a : α) (serial : Nat) (log : List (List Number)) :
    (value a serial).run log = (.ok a, ⟨log, serial⟩) := by
  simp only [run, value, List.append_nil]
  rfl

theorem run_fail (e : EvalError) (serial : Nat) (log : List (List Number)) :
    (fail e serial : Conclusion α).run log = (.error (.error e), ⟨log, serial⟩) := by
  simp only [run, fail, List.append_nil]
  rfl

theorem run_after (c : Conclusion α) (calls log : List (List Number)) :
    (c.after calls).run log = c.run (log ++ calls) := by
  simp [run, after]

end Conclusion

namespace Run

variable {α β : Type} {run : Run α} {next : α → Run β} {w : World} {serial : Nat}
  {log calls : List (List Number)}

theorem bind_value {a : α} (first : run w = Conclusion.run ⟨.ok a, calls, serial⟩ log) :
    run.bind next w = next a ⟨log ++ calls, serial⟩ := by
  simp only [Run.bind, first]
  rfl

theorem bind_failure {e : EvalError}
    (first : run w = Conclusion.run ⟨.error e, calls, serial⟩ log) :
    run.bind next w = Conclusion.run ⟨.error e, calls, serial⟩ log := by
  simp only [Run.bind, first]
  rfl

theorem bind_exhausted (first : (run w).1 = .error .exhausted) :
    (run.bind next w).1 = .error .exhausted := by
  rcases result : run w with ⟨outcome, v⟩
  rw [result] at first
  cases first
  simp only [Run.bind, result]

end Run

theorem numbersOf_eq_ok_iff {name : String} {args : List Value} {numbers : List Number} :
    numbersOf name args = .ok numbers ↔ args = numbers.map Value.number := by
  constructor
  · intro allNumbers
    induction args generalizing numbers with
    | nil =>
      cases allNumbers
      rfl
    | cons value rest ih =>
      cases value with
      | number n =>
        rw [numbersOf] at allNumbers
        cases tail : numbersOf name rest with
        | error e =>
          rw [tail] at allNumbers
          cases allNumbers
        | ok ns =>
          rw [tail] at allNumbers
          cases allNumbers
          rw [ih tail, List.map_cons]
      | closure | primitive => cases allNumbers
  · rintro rfl
    induction numbers with
    | nil => rfl
    | cons n rest ih =>
      rw [List.map_cons, numbersOf, ih]
      rfl

theorem applyPrimitive_ok {name : String} {host : Host} {args : List Value} {numbers : List Number}
    (allNumbers : numbersOf name args = .ok numbers) (log : List (List Number)) (serial : Nat) :
    applyPrimitive name host args ⟨log, serial⟩ =
      Conclusion.run ⟨acceptAnswer name (host numbers).result, (host numbers).entries, serial⟩ log := by
  simp only [applyPrimitive, allNumbers, Run.ofExcept, Run.bind, Run.pure, Run.log, Conclusion.run]
  cases acceptAnswer name (host numbers).result <;> rfl

theorem applyPrimitive_error {name : String} {host : Host} {args : List Value} {e : EvalError}
    (notNumbers : numbersOf name args = .error e) (w : World) :
    applyPrimitive name host args w = (.error (.error e), w) := by
  simp only [applyPrimitive, notNumbers, Run.ofExcept, Run.bind, Run.fail]

theorem acceptAnswer_eq_ok {name : String} {result : Except Fault Host.Answer} {value : Value}
    (accepted : acceptAnswer name result = .ok value) :
    ∃ n, result = .ok (.number n) ∧ n.inRange = true ∧ value = .number n := by
  unfold acceptAnswer at accepted
  split at accepted
  · split at accepted
    · split at accepted <;> contradiction
    · contradiction
  · contradiction
  · contradiction
  · rename_i n
    split at accepted
    · rename_i inside
      exact ⟨n, rfl, inside, (Except.ok.inj accepted).symm⟩
    · contradiction

theorem applyPrimitive_eq_ok {name : String} {host : Host} {args : List Value} {value : Value} {v w : World}
    (ran : applyPrimitive name host args w = (.ok value, v)) :
    ∃ numbers n, numbersOf name args = .ok numbers ∧ (host numbers).result = .ok (.number n) ∧
      n.inRange = true ∧ value = .number n := by
  cases allNumbers : numbersOf name args with
  | error e =>
    rw [applyPrimitive_error allNumbers] at ran
    cases ran
  | ok numbers =>
    rw [applyPrimitive_ok allNumbers w.calls w.serial] at ran
    cases answer : acceptAnswer name (host numbers).result with
    | error e =>
      rw [answer] at ran
      cases ran
    | ok accepted =>
      rw [answer] at ran
      cases ran
      obtain ⟨n, result, inside, number⟩ := acceptAnswer_eq_ok answer
      exact ⟨numbers, n, rfl, result, inside, number⟩

mutual

theorem Evaluates.eval_eq : ∀ {h : Nat} {env : Env} {serial : Nat} {e : Expr} {c : Conclusion Value},
    Evaluates h env serial e c → ∀ levels, h ≤ levels → ∀ log,
      eval levels env e ⟨log, serial⟩ = c.run log
  | _, _, _, _, _, .literal, levels + 1, _, log => by
    rw [Conclusion.run_value]
    rfl
  | _, _, _, _, _, .name bound, levels + 1, _, log => by
    rw [Conclusion.run_value]
    simp only [eval, Env.lookup_eq_some_iff.mpr bound, Run.pure]
  | _, _, _, _, _, .unbound absent, levels + 1, _, log => by
    rw [Conclusion.run_fail]
    simp only [eval, Env.lookup_eq_none_iff.mpr absent, Run.fail]
  | _, _, _, _, _, .lambda, levels + 1, _, log => by
    rw [Conclusion.run_value]
    rfl
  | _, _, _, _, _, .operatorFails first, levels + 1, enough, log => by
    exact Run.bind_failure (first.eval_eq levels (by omega) log)
  | _, _, _, _, _, .operandFails first second, levels + 1, enough, log => by
    rw [eval, Run.bind_value (first.eval_eq levels (by omega) log),
      Run.bind_failure (second.evalAll_eq levels (by omega) _)]
    exact (Conclusion.run_after _ _ _).symm
  | _, _, _, _, _, .call first second third, levels + 1, enough, log => by
    rw [eval, Run.bind_value (first.eval_eq levels (by omega) log),
      Run.bind_value (second.evalAll_eq levels (by omega) _), third.applyWith_eq levels (by omega) _,
      Conclusion.run_after, List.append_assoc]

theorem EvaluatesAll.evalAll_eq : ∀ {h : Nat} {env : Env} {serial : Nat} {es : List Expr}
    {c : Conclusion (List Value)}, EvaluatesAll h env serial es c → ∀ levels, h ≤ levels → ∀ log,
      evalAll (eval levels env) es ⟨log, serial⟩ = c.run log
  | _, _, _, _, _, .nil, levels, _, log => by
    rw [Conclusion.run_value]
    rfl
  | _, _, _, _, _, .headFails first, levels, enough, log => by
    exact Run.bind_failure (first.eval_eq levels enough log)
  | _, _, _, _, _, .tailFails first second, levels, enough, log => by
    rw [evalAll, Run.bind_value (first.eval_eq levels (by omega) log),
      Run.bind_failure (second.evalAll_eq levels (by omega) _)]
    exact (Conclusion.run_after _ _ _).symm
  | _, _, _, _, _, .cons first second, levels, enough, log => by
    rw [evalAll, Run.bind_value (first.eval_eq levels (by omega) log),
      Run.bind_value (second.evalAll_eq levels (by omega) _)]
    simp only [Run.pure, Conclusion.run, List.append_assoc]
    rfl

theorem Applies.applyWith_eq : ∀ {h serial : Nat} {fn : Value} {args : List Value}
    {c : Conclusion Value}, Applies h serial fn args c → ∀ levels, h ≤ levels → ∀ log,
      applyWith (eval levels) fn args ⟨log, serial⟩ = c.run log
  | _, _, _, _, _, .arity mismatch, levels, _, log => by
    rw [Conclusion.run_fail]
    simp only [applyWith, mismatch, ↓reduceIte, Run.fail]
  | _, _, _, _, _, .closure counted inside, levels, enough, log => by
    have body := inside.eval_eq levels enough log
    simp only [applyWith, counted, ↓reduceIte, Run.bind, Run.fresh, body]
  | _, _, _, _, _, .rejected notNumbers, levels, _, log => by
    rw [Conclusion.run_fail]
    exact applyPrimitive_error notNumbers _
  | _, _, _, _, _, .primitive allNumbers, levels, _, log => by
    exact applyPrimitive_ok allNumbers log _
  | _, _, _, _, _, .number, levels, _, log => by
    rw [Conclusion.run_fail]
    rfl

end

def Settles (levels : Nat) (env : Env) (serial : Nat) (e : Expr) : Prop :=
  ∃ h c, Evaluates h env serial e c ∧ h ≤ levels

theorem evalAll_settles_or_exhausted {levels : Nat} {env : Env} (es : List Expr)
    (each : ∀ e serial log, Settles levels env serial e ∨
      (eval levels env e ⟨log, serial⟩).1 = .error .exhausted)
    (serial : Nat) (log : List (List Number)) :
    (∃ h c, EvaluatesAll h env serial es c ∧ h ≤ levels) ∨
      (evalAll (eval levels env) es ⟨log, serial⟩).1 = .error .exhausted := by
  induction es generalizing serial log with
  | nil => exact .inl ⟨0, _, .nil, Nat.zero_le levels⟩
  | cons e rest ih =>
    rcases each e serial log with ⟨h, ⟨outcome, calls, middle⟩, head, enough⟩ | stopped
    · cases outcome with
      | error err => exact .inl ⟨h, _, .headFails head, enough⟩
      | ok value =>
        rcases ih middle (log ++ calls) with ⟨k, ⟨outcome, more, next⟩, tail, bound⟩ | stopped
        · have both : max h k ≤ levels := Nat.max_le.mpr ⟨enough, bound⟩
          cases outcome with
          | error err => exact .inl ⟨_, _, .tailFails head tail, both⟩
          | ok values => exact .inl ⟨_, _, .cons head tail, both⟩
        · right
          rw [evalAll, Run.bind_value (head.eval_eq levels enough log)]
          exact Run.bind_exhausted stopped
    · exact .inr (Run.bind_exhausted stopped)

theorem applyWith_settles_or_exhausted {levels : Nat} (fn : Value) (args : List Value)
    (each : ∀ env e serial log, Settles levels env serial e ∨
      (eval levels env e ⟨log, serial⟩).1 = .error .exhausted)
    (serial : Nat) (log : List (List Number)) :
    (∃ h c, Applies h serial fn args c ∧ h ≤ levels) ∨
      (applyWith (eval levels) fn args ⟨log, serial⟩).1 = .error .exhausted := by
  cases fn with
  | number n => exact .inl ⟨0, _, .number, Nat.zero_le levels⟩
  | primitive identity name host =>
    cases numbers : numbersOf name args with
    | error e => exact .inl ⟨0, _, .rejected numbers, Nat.zero_le levels⟩
    | ok ns => exact .inl ⟨0, _, .primitive numbers, Nat.zero_le levels⟩
  | closure identity parameters body env =>
    by_cases counted : args.length = parameters.length
    · rcases each (Env.extend env serial parameters args) body (serial + 1) log with
        ⟨h, c, inside, enough⟩ | stopped
      · exact .inl ⟨h, c, .closure counted inside, enough⟩
      · right
        simpa only [applyWith, counted, ↓reduceIte, Run.bind, Run.fresh] using stopped
    · exact .inl ⟨0, _, .arity counted, Nat.zero_le levels⟩

theorem eval_settles_or_exhausted (levels : Nat) (env : Env) (e : Expr) (serial : Nat)
    (log : List (List Number)) :
    Settles levels env serial e ∨ (eval levels env e ⟨log, serial⟩).1 = .error .exhausted := by
  -- Operator, operands and applied body all run with one level less, the body in another environment.
  induction levels generalizing env e serial log with
  | zero => exact .inr rfl
  | succ levels ih =>
    cases e with
    | literal n => exact .inl ⟨1, _, .literal, by omega⟩
    | name identifier =>
      cases found : env.lookup identifier with
      | none => exact .inl ⟨1, _, .unbound (Env.lookup_eq_none_iff.mp found), by omega⟩
      | some value => exact .inl ⟨1, _, .name (Env.lookup_eq_some_iff.mp found), by omega⟩
    | lambda parameters body => exact .inl ⟨1, _, .lambda, by omega⟩
    | call operator operands =>
      rcases ih env operator serial log with ⟨h, ⟨outcome, calls, middle⟩, first, enough⟩ | stopped
      · cases outcome with
        | error err => exact .inl ⟨h + 1, _, .operatorFails first, by omega⟩
        | ok fn =>
          have operatorRun := first.eval_eq levels enough log
          rcases evalAll_settles_or_exhausted operands (ih env) middle (log ++ calls) with
            ⟨k, ⟨outcome, more, last⟩, second, bound⟩ | stopped
          · cases outcome with
            | error err => exact .inl ⟨_, _, .operandFails first second, by omega⟩
            | ok args =>
              rcases applyWith_settles_or_exhausted fn args ih last (log ++ calls ++ more) with
                ⟨l, c, third, height⟩ | stopped
              · exact .inl ⟨_, _, .call first second third, by omega⟩
              · right
                rw [eval, Run.bind_value operatorRun,
                  Run.bind_value (second.evalAll_eq levels bound _)]
                exact stopped
          · right
            rw [eval, Run.bind_value operatorRun]
            exact Run.bind_exhausted stopped
      · exact .inr (Run.bind_exhausted stopped)

theorem Conclusion.run_inj {c d : Conclusion Value} {log : List (List Number)}
    (same : c.run log = d.run log) : c = d := by
  obtain ⟨first, calls, serial⟩ := c
  obtain ⟨second, more, next⟩ := d
  simp only [run, Prod.mk.injEq, World.mk.injEq, List.append_cancel_left_eq] at same
  obtain ⟨outcomes, rfl, rfl⟩ := same
  have outcome : first = second := by
    cases first with
    | ok a =>
      cases second with
      | ok b => exact congrArg Except.ok (Except.ok.inj outcomes)
      | error f => exact nomatch (outcomes : (Except.ok a : Except Stop Value) = .error (.error f))
    | error e =>
      cases second with
      | ok b => exact nomatch (outcomes : (Except.error (.error e) : Except Stop Value) = .ok b)
      | error f => exact congrArg Except.error (Stop.error.inj (Except.error.inj outcomes))
  rw [outcome]

theorem Conclusion.run_ne_limited {c : Conclusion Value} {limit : Int}
    (other : c.outcome ≠ .error (.depth limit)) (reached : Prop) [Decidable reached]
    (log : List (List Number)) :
    (c.run log).1 ≠ .error (if reached then .error (.depth limit) else .exhausted) := by
  obtain ⟨err | value, calls, serial⟩ := c
  · intro limited
    have stop : Stop.error err = if reached then .error (.depth limit) else .exhausted :=
      Except.error.inj limited
    split at stop
    · exact other (congrArg Except.error (Stop.error.inj stop))
    · cases stop
  · exact nofun

theorem evaluates_iff_eval (levels : Nat) (env : Env) (e : Expr) (w : World) (c : Conclusion Value) :
    (∃ h, Evaluates h env w.serial e c ∧ h ≤ levels) ↔ eval levels env e w = c.run w.calls := by
  constructor
  · rintro ⟨h, derivation, enough⟩
    exact derivation.eval_eq levels enough w.calls
  · intro ran
    rcases eval_settles_or_exhausted levels env e w.serial w.calls with ⟨h, d, derivation, enough⟩ | stopped
    · have same := (derivation.eval_eq levels enough w.calls).symm.trans ran
      rw [← Conclusion.run_inj same]
      exact ⟨h, derivation, enough⟩
    · -- A conclusion is never the exhaustion of levels.
      rw [ran] at stopped
      obtain ⟨outcome, calls, serial⟩ := c
      cases outcome <;> cases stopped

theorem numbersOf_eq_error {name : String} {args : List Value} {e : EvalError}
    (failed : numbersOf name args = .error e) : ∃ detail, e = .primitive name detail := by
  induction args with
  | nil => cases failed
  | cons value rest ih =>
    cases value with
    | number n =>
      rw [numbersOf] at failed
      cases tail : numbersOf name rest with
      | ok ns =>
        rw [tail] at failed
        cases failed
      | error other =>
        rw [tail] at failed
        cases failed
        exact ih tail
    | closure | primitive =>
      cases failed
      exact ⟨_, rfl⟩

theorem acceptAnswer_eq_error {name : String} {result : Except Fault Host.Answer} {e : EvalError}
    (refused : acceptAnswer name result = .error e) :
    (∃ detail, e = .primitive name detail) ∨ ∃ f, e = .escaped f := by
  unfold acceptAnswer at refused
  split at refused
  · split at refused
    · split at refused <;> cases refused
      · exact .inl ⟨_, rfl⟩
      · exact .inr ⟨_, rfl⟩
    · cases refused
      exact .inr ⟨_, rfl⟩
  · cases refused
    exact .inl ⟨_, rfl⟩
  · cases refused
    exact .inr ⟨_, rfl⟩
  · split at refused
    · contradiction
    · cases refused
      exact .inl ⟨_, rfl⟩

theorem notCallable_cases (v : Value) :
    (∃ shown, notCallable v = .notCallable shown) ∨ ∃ f, notCallable v = .escaped f := by
  unfold notCallable
  split
  · exact .inl ⟨_, rfl⟩
  · exact .inr ⟨_, rfl⟩

mutual

theorem Evaluates.ne_depth : ∀ {h : Nat} {env : Env} {serial : Nat} {e : Expr}
    {c : Conclusion Value}, Evaluates h env serial e c → ∀ limit, c.outcome ≠ .error (.depth limit)
  | _, _, _, _, _, .literal, limit => by simp [Conclusion.value]
  | _, _, _, _, _, .name bound, limit => by simp [Conclusion.value]
  | _, _, _, _, _, .unbound absent, limit => by simp [Conclusion.fail]
  | _, _, _, _, _, .lambda, limit => by simp [Conclusion.value]
  | _, _, _, _, _, .operatorFails first, limit => by simpa using first.ne_depth limit
  | _, _, _, _, _, .operandFails first second, limit => by simpa using second.ne_depth limit
  | _, _, _, _, _, .call first second third, limit => third.ne_depth limit

theorem EvaluatesAll.ne_depth : ∀ {h : Nat} {env : Env} {serial : Nat} {es : List Expr}
    {c : Conclusion (List Value)}, EvaluatesAll h env serial es c →
      ∀ limit, c.outcome ≠ .error (.depth limit)
  | _, _, _, _, _, .nil, limit => by simp [Conclusion.value]
  | _, _, _, _, _, .headFails first, limit => by simpa using first.ne_depth limit
  | _, _, _, _, _, .tailFails first second, limit => second.ne_depth limit
  | _, _, _, _, _, .cons first second, limit => by simp

theorem Applies.ne_depth : ∀ {h serial : Nat} {fn : Value} {args : List Value}
    {c : Conclusion Value}, Applies h serial fn args c → ∀ limit, c.outcome ≠ .error (.depth limit)
  | _, _, _, _, _, .arity mismatch, limit => by simp [Conclusion.fail]
  | _, _, _, _, _, .closure counted inside, limit => inside.ne_depth limit
  | _, _, _, _, _, .rejected notNumbers, limit => by
    obtain ⟨detail, rfl⟩ := numbersOf_eq_error notNumbers
    simp [Conclusion.fail]
  | _, _, _, _, _, .primitive allNumbers, limit => by
    intro same
    rcases acceptAnswer_eq_error same with ⟨detail, other⟩ | ⟨f, other⟩ <;> cases other
  | _, _, .number n, _, _, .number, limit => by
    rcases notCallable_cases (.number n) with ⟨shown, other⟩ | ⟨f, other⟩ <;> simp [Conclusion.fail, other]

end

theorem Evaluates.height_pos {h : Nat} {env : Env} {serial : Nat} {e : Expr} {c : Conclusion Value}
    (derivation : Evaluates h env serial e c) : 0 < h := by
  cases derivation <;> omega

theorem le_levelsFor_iff {h : Nat} (positive : 0 < h) (room : Nat) (depth limit : Int) :
    h ≤ levelsFor room depth limit ↔ (h : Int) ≤ limit - depth ∧ h ≤ room := by
  simp only [levelsFor]
  omega

theorem evaluateAt_of_evaluates {h room : Nat} {depth limit : Int} {env : Env} {e : Expr} {w : World}
    {c : Conclusion Value} (derivation : Evaluates h env w.serial e c)
    (enough : h ≤ levelsFor room depth limit) :
    evaluateAt room depth limit env e w = c.run w.calls := by
  have ran := derivation.eval_eq _ enough w.calls
  obtain ⟨outcome, calls, serial⟩ := c
  simp only [evaluateAt, Run.within, ran, Conclusion.run]
  cases outcome <;> rfl

theorem evaluateAt_of_exhausted {room : Nat} {depth limit : Int} {env : Env} {e : Expr} {w : World}
    (stopped : (eval (levelsFor room depth limit) env e w).1 = .error .exhausted) :
    (evaluateAt room depth limit env e w).1 =
      .error (if (limit - depth).toNat ≤ room then .error (.depth limit) else .exhausted) := by
  rcases result : eval (levelsFor room depth limit) env e w with ⟨outcome, v⟩
  rw [result] at stopped
  cases stopped
  simp only [evaluateAt, Run.within, result]

theorem evaluate_eq (room : Nat) (limit : Int) (env : Env) (e : Expr) (w : World) :
    evaluate room limit env e w =
      match eval (levelsFor room 0 limit) env e w with
      | (.ok v, w) => (.ok v, w)
      | (.error (.error e), w) => (.error e, w)
      | (.error .exhausted, w) => (.error (.depth limit), w) := by
  rcases result : eval (levelsFor room 0 limit) env e w with ⟨outcome, v⟩
  simp only [evaluate, evaluateAt, Run.within, result]
  rcases outcome with (err | -) | value
  · rfl
  · by_cases reached : (limit - 0).toNat ≤ room
    · rw [if_pos reached]
    · rw [if_neg reached]
  · rfl

theorem evaluate_of_evaluates {h room : Nat} {limit : Int} {env : Env} {e : Expr} {w : World}
    {c : Conclusion Value} (derivation : Evaluates h env w.serial e c)
    (enough : h ≤ levelsFor room 0 limit) :
    evaluate room limit env e w = (c.outcome, ⟨w.calls ++ c.calls, c.serial⟩) := by
  have ran := derivation.eval_eq _ enough w.calls
  obtain ⟨outcome, calls, serial⟩ := c
  simp only [evaluate_eq, ran, Conclusion.run]
  cases outcome <;> rfl

theorem evaluate_of_exhausted {room : Nat} {limit : Int} {env : Env} {e : Expr} {w : World}
    (stopped : (eval (levelsFor room 0 limit) env e w).1 = .error .exhausted) :
    (evaluate room limit env e w).1 = .error (.depth limit) := by
  rcases result : eval (levelsFor room 0 limit) env e w with ⟨outcome, v⟩
  rw [result] at stopped
  cases stopped
  simp only [evaluate_eq, result]

section

variable {levels room : Nat} {depth limit : Int} {env : Env} {e : Expr} {w : World} {c : Conclusion Value}
  {admitted : Nat → Prop}

theorem derived_iff_eval (admits : ∀ h, 0 < h → (admitted h ↔ h ≤ levels)) :
    (∃ h, Evaluates h env w.serial e c ∧ admitted h) ↔ eval levels env e w = c.run w.calls := by
  rw [← evaluates_iff_eval]
  exact exists_congr fun h => and_congr_right fun derivation => admits h derivation.height_pos

theorem exhausted_of_not_derived (admits : ∀ h, 0 < h → (admitted h ↔ h ≤ levels))
    (none : ¬ ∃ c h, Evaluates h env w.serial e c ∧ admitted h) : (eval levels env e w).1 = .error .exhausted := by
  rcases eval_settles_or_exhausted levels env e w.serial w.calls with ⟨h, c, derivation, enough⟩ | stopped
  · exact absurd ⟨c, h, derivation, (admits h derivation.height_pos).mpr enough⟩ none
  · exact stopped

theorem evaluateAt_eq_run_iff :
    evaluateAt room depth limit env e w = c.run w.calls ∧ c.outcome ≠ .error (.depth limit) ↔
      eval (levelsFor room depth limit) env e w = c.run w.calls := by
  constructor
  · -- An outcome that does not report the limit can only come from a derivation.
    rintro ⟨result, other⟩
    rcases eval_settles_or_exhausted (levelsFor room depth limit) env e w.serial w.calls with
      ⟨h, d, derivation, enough⟩ | stopped
    · have found := evaluateAt_of_evaluates derivation enough
      cases Conclusion.run_inj (found.symm.trans result)
      exact derivation.eval_eq _ enough w.calls
    · have limited := evaluateAt_of_exhausted (w := w) stopped
      rw [result] at limited
      exact absurd limited (Conclusion.run_ne_limited other _ _)
  · intro ran
    obtain ⟨h, derivation, enough⟩ := (evaluates_iff_eval _ env e w c).mpr ran
    exact ⟨evaluateAt_of_evaluates derivation enough, derivation.ne_depth limit⟩

theorem evaluate_eq_conclusion_iff :
    evaluate room limit env e w = (c.outcome, ⟨w.calls ++ c.calls, c.serial⟩) ∧
        c.outcome ≠ .error (.depth limit) ↔
      eval (levelsFor room 0 limit) env e w = c.run w.calls := by
  constructor
  · rintro ⟨result, other⟩
    rcases eval_settles_or_exhausted (levelsFor room 0 limit) env e w.serial w.calls with
      ⟨h, d, derivation, enough⟩ | stopped
    · have found := evaluate_of_evaluates derivation enough
      rw [result] at found
      obtain ⟨outcome, calls, serial⟩ := c
      obtain ⟨outcome', calls', serial'⟩ := d
      simp only [Prod.mk.injEq, World.mk.injEq, List.append_cancel_left_eq] at found
      obtain ⟨rfl, rfl, rfl⟩ := found
      exact derivation.eval_eq _ enough w.calls
    · have limited := evaluate_of_exhausted (w := w) stopped
      rw [result] at limited
      exact absurd limited other
  · intro ran
    obtain ⟨h, derivation, enough⟩ := (evaluates_iff_eval _ env e w c).mpr ran
    exact ⟨evaluate_of_evaluates derivation enough, derivation.ne_depth limit⟩

end

/-- The evaluator follows the rules as far as the limit reaches. With room for all levels, what it comes
to is the conclusion of the derivation whose height the limit admits at the depth. It is that conclusion
also in less room when the height keeps to it; without such a derivation it is the limit that is
reported, or the end of the room when this comes first. For a whole expression both are reported as the
limit. -/
theorem evaluateAt_derives (room : Nat) (depth limit : Int) (env : Env) (e : Expr) (w : World) :
    (∀ c, (∃ h, Evaluates h env w.serial e c ∧ (h : Int) ≤ limit - depth) ↔
      eval (limit - depth).toNat env e w = c.run w.calls) ∧
    ((¬ ∃ c h, Evaluates h env w.serial e c ∧ (h : Int) ≤ limit - depth) →
      (eval (limit - depth).toNat env e w).1 = .error .exhausted) ∧
    (∀ c, (∃ h, Evaluates h env w.serial e c ∧ (h : Int) ≤ limit - depth ∧ h ≤ room) ↔
      evaluateAt room depth limit env e w = c.run w.calls ∧ c.outcome ≠ .error (.depth limit)) ∧
    ((¬ ∃ c h, Evaluates h env w.serial e c ∧ (h : Int) ≤ limit - depth ∧ h ≤ room) →
      (evaluateAt room depth limit env e w).1 =
        .error (if (limit - depth).toNat ≤ room then .error (.depth limit) else .exhausted)) ∧
    (∀ c, (∃ h, Evaluates h env w.serial e c ∧ (h : Int) ≤ limit ∧ h ≤ room) ↔
      evaluate room limit env e w = (c.outcome, ⟨w.calls ++ c.calls, c.serial⟩) ∧
        c.outcome ≠ .error (.depth limit)) ∧
    ((¬ ∃ c h, Evaluates h env w.serial e c ∧ (h : Int) ≤ limit ∧ h ≤ room) →
      (evaluate room limit env e w).1 = .error (.depth limit)) := by
  have ample : ∀ h : Nat, 0 < h → ((h : Int) ≤ limit - depth ↔ h ≤ (limit - depth).toNat) := by
    intro h positive
    omega
  have below : ∀ h : Nat, 0 < h → ((h : Int) ≤ limit - depth ∧ h ≤ room ↔ h ≤ levelsFor room depth limit) :=
    fun h positive => (le_levelsFor_iff positive room depth limit).symm
  have whole : ∀ h : Nat, 0 < h → ((h : Int) ≤ limit ∧ h ≤ room ↔ h ≤ levelsFor room 0 limit) := by
    intro h positive
    rw [le_levelsFor_iff positive, Int.sub_zero]
  refine ⟨?_, ?_, ?_, ?_, ?_, ?_⟩
  · exact fun c => derived_iff_eval ample
  · exact exhausted_of_not_derived ample
  · exact fun c => (derived_iff_eval below).trans evaluateAt_eq_run_iff.symm
  · exact fun none => evaluateAt_of_exhausted (exhausted_of_not_derived below none)
  · exact fun c => (derived_iff_eval whole).trans evaluate_eq_conclusion_iff.symm
  · exact fun none => evaluate_of_exhausted (exhausted_of_not_derived whole none)

end LambdaCalc
