import LambdaCalc.Proofs.Interpreter.Default
import LambdaCalc.Proofs.Reader.Message

namespace LambdaCalc

open Text

namespace Expr

theorem wellFormed_of_child {e d : Expr} {turn : Turn} (formed : e.wellFormed = true)
    (step : e.child? turn = some d) : d.wellFormed = true := by
  unfold child? at step
  split at step
  · cases step
    simp only [wellFormed, Bool.and_eq_true] at formed
    exact formed.2
  · cases step
    simp only [wellFormed, Bool.and_eq_true] at formed
    exact formed.1
  · simp only [wellFormed, Bool.and_eq_true] at formed
    exact wellFormedAll_iff.mp formed.2 d (List.mem_of_getElem? step)
  · contradiction

theorem wellFormed_of_part {e d : Expr} {place : Place} (formed : e.wellFormed = true)
    (part : e.part? place = some d) : d.wellFormed = true := by
  induction place generalizing d with
  | nil =>
    cases part
    exact formed
  | cons turn place ih =>
    obtain ⟨outer, above, step⟩ := Option.bind_eq_some_iff.mp part
    exact wellFormed_of_child (ih above) step

end Expr

namespace Fault

theorem visible_of_isArithmetic {f : Fault} {message : String} (operands : f.isArithmetic = true)
    (told : f.message? = .ok message) : Visible message := by
  cases f with
  | byZero operation =>
    cases told
    cases operation <;> decide
  | tooLarge operation =>
    cases told
    cases operation <;> decide
  | noRealPower base exponent =>
    cases told
    have opening : Visible "pow(" := by decide
    have between : Visible ", " := by decide
    have arguments := ((opening.append base.visible_display).append between).append exponent.visible_display
    exact arguments.append (by decide)
  | notIntegral x =>
    cases told
    have opening : Visible "cannot convert " := by decide
    exact (opening.append x.visible_display).append (by decide)
  | arity | noArgument | tooManyDigits | raised | untold => cases operands

theorem Of.visible {name message : String} {f : Fault} (own : Of name f) (named : Visible name)
    (told : f.message? = .ok message) : Visible message := by
  cases own with
  | arithmetic operands => exact visible_of_isArithmetic operands told
  | arity expected got =>
    cases told
    have requires : Visible " requires exactly " := by decide
    have counted : Visible " argument(s), got " := by decide
    have wanted := (named.append requires).append (visible_toString_nat expected)
    exact (wanted.append counted).append (visible_toString_nat got)
  | noArgument =>
    cases told
    exact named.append (by decide)

end Fault

namespace Host

/-- The function says nothing that is not visible, neither in its faults nor where its answer is displayed. -/
structure Legible (host : Host) : Prop where
  fault : ∀ numbers f message, (host numbers).result = .error f → f.message? = .ok message → Visible message
  display : ∀ numbers s, (host numbers).result = .ok (.object (.ok s)) → Visible s

theorem legible_of_failsAs {name : String} {f : List Number → Except Fault Number} (named : Visible name)
    (fails : (ofFunction f).FailsAs name) : (ofFunction f).Legible where
  fault := fun numbers fault message failed told => (fails numbers fault failed).visible named told
  display := by
    intro numbers s answer
    simp only [ofFunction] at answer
    cases result : f numbers with
    | ok n =>
      rw [result] at answer
      cases answer
    | error fault =>
      rw [result] at answer
      cases answer

theorem primitives_function : ∀ entry ∈ primitives, ∃ f, entry.2 = ofFunction f := by
  simp only [primitives, List.forall_mem_cons, List.not_mem_nil, false_implies, implies_true, and_true]
  and_intros
  all_goals exact ⟨_, rfl⟩

theorem primitives_visible : ∀ entry ∈ primitives, Visible entry.1 := by
  simp only [primitives, List.forall_mem_cons, List.not_mem_nil, false_implies, implies_true, and_true]
  and_intros
  all_goals decide

theorem primitives_legible : ∀ entry ∈ primitives, entry.2.Legible := by
  intro entry member
  have fails := primitives_failAs entry member
  obtain ⟨f, same⟩ := primitives_function entry member
  rw [same] at fails ⊢
  exact legible_of_failsAs (primitives_visible entry member) fails

end Host

theorem Interpreter.read_eq_error {i : Interpreter} {source : String} {err : ReadError}
    (failed : (i.eval source).1 = .error (.read err)) : Expr.read i.stack.reading source = .error err := by
  cases read : Expr.read i.stack.reading source with
  | error other =>
    simp only [eval, evaluateSource, read] at failed
    cases failed
    rfl
  | ok answer =>
    cases answer with
    | none =>
      simp only [eval, evaluateSource, read] at failed
      cases failed
    | some e =>
      rw [i.eval_of_read read] at failed
      rcases outcome : (i.start e).outcome with ⟨result, v⟩
      rw [outcome] at failed
      cases result with
      | ok value => cases failed
      | error stop => cases stop <;> cases failed

section

variable {table : List (String × Host)} (names : ∀ entry ∈ table, Visible entry.1)
  (legible : ∀ entry ∈ table, entry.2.Legible)

include names

theorem Moment.Stems.visible {start : Moment} {value : Value} {s : String} (stems : start.Stems table value)
    (shown : value.text? = .ok s) : Visible s := by
  cases stems with
  | number n =>
    simp only [Value.text?, Number.text?] at shown
    split at shown
    · cases shown
      exact n.visible_text
    · cases shown
  | primitive entry =>
    cases shown
    have opening : Visible "<function " := by decide
    exact (opening.append (names _ entry)).append (by decide)
  | closure made kept =>
    cases shown
    decide

theorem visible_of_numbersOf {start : Moment} {name message : String} {args : List Value} {err : EvalError}
    (named : Visible name) (stems : ∀ arg ∈ args, start.Stems table arg)
    (failed : numbersOf name args = .error err) (told : err.message? = .ok message) : Visible message := by
  have colon : Visible ": " := by decide
  have wanted : Visible "expected a number, got " := by decide
  induction args with
  | nil => cases failed
  | cons value rest ih =>
    obtain ⟨first, others⟩ := List.forall_mem_cons.mp stems
    have rejected : ∀ s, value.text? = .ok s → Visible (name ++ ": " ++ ("expected a number, got " ++ s)) := by
      intro s shown
      exact (named.append colon).append (wanted.append (first.visible names shown))
    cases value with
    | number n =>
      rw [numbersOf] at failed
      cases tail : numbersOf name rest with
      | ok ns =>
        rw [tail] at failed
        cases failed
      | error other =>
        rw [tail] at failed
        cases failed
        exact ih others tail
    | closure | primitive =>
      cases failed
      cases told
      exact rejected _ rfl

include legible

theorem visible_of_acceptAnswer {name message : String} {host : Host} {numbers : List Number} {err : EvalError}
    (entry : (name, host) ∈ table) (refused : acceptAnswer name (host numbers).result = .error err)
    (reported : ∀ f, err ≠ .escaped f) (told : err.message? = .ok message) : Visible message := by
  have colon : Visible ": " := by decide
  have named := (names _ entry).append colon
  unfold acceptAnswer at refused
  split at refused
  · rename_i f failed
    split at refused
    · split at refused
      · rename_i detail saying
        cases refused
        cases told
        exact named.append ((legible _ entry).fault numbers f detail failed saying)
      · cases refused
        exact absurd rfl (reported _)
    · cases refused
      exact absurd rfl (reported f)
  · rename_i s answer
    cases refused
    cases told
    have opening : Visible "non-numeric result " := by decide
    exact named.append (opening.append ((legible _ entry).display numbers s answer))
  · cases refused
    exact absurd rfl (reported _)
  · split at refused
    · cases refused
    · cases refused
      cases told
      exact named.append (by decide)

theorem Moment.visible_of_raises {levels : Nat} {root : Env} {e : Expr} {w : World} {place : Place} {m : Moment}
    {err : EvalError} {message : String} (formed : e.wellFormed = true)
    (visit : (evaluating levels root e w).Visits place m)
    (values : (evaluating levels root e w).Stemming table m) (raises : m.Raises err)
    (reported : ∀ f, err ≠ .escaped f) (told : err.message? = .ok message) : Visible message := by
  cases raises with
  | unbound absent =>
    cases told
    -- The name is part of the expression, so it was read as a symbol.
    obtain ⟨part, -⟩ := visit.placed
    have symbol := Expr.wellFormed_of_part formed part
    simp only [Expr.wellFormed, Bool.and_eq_true] at symbol
    have opening : Visible "unbound name '" := by decide
    exact (opening.append (Scanner.visible_of_isSymbol symbol.1)).append (by decide)
  | arity mismatch =>
    cases told
    have opening : Visible "expected " := by decide
    have between : Visible " argument(s), got " := by decide
    exact ((opening.append (visible_toString_nat _)).append between).append (visible_toString_nat _)
  | rejected notNumbers =>
    obtain ⟨function, arguments⟩ := values
    cases function with
    | primitive entry => exact visible_of_numbersOf names (names _ entry) arguments notNumbers told
  | refused call answer => exact visible_of_acceptAnswer names legible (values.calls call) answer reported told
  | @number _ n =>
    have stems : (evaluating levels root e w).Stems table (.number n) := values.1
    unfold notCallable at reported told
    split at told
    · rename_i s shown
      cases told
      have text := stems.visible names shown
      exact text.append (by decide)
    · rename_i f shown
      rw [shown] at reported
      exact absurd rfl (reported f)

namespace Interpreter

theorem visible_of_eval_error {stack : Stack} {limit : Int} {source : String} {failure : Failure}
    {kind message : String} (failed : ((ofTable stack table limit).eval source).1 = .error failure)
    (named : failure.kind? = .ok kind) (told : failure.message? = .ok message) : Visible message := by
  cases failure with
  | breakdown b => cases named
  | read err =>
    cases told
    exact Reader.visible_of_read (read_eq_error failed)
  | eval err =>
    obtain ⟨e, v, read, outcome | ⟨-, rfl⟩⟩ := eval_eq_error failed
    · obtain ⟨m, later, raises⟩ := Moment.exists_raises_evaluating outcome
      obtain ⟨place, visit, values⟩ := Moment.exists_visits later
      refine Moment.visible_of_raises names legible (Expr.wellFormed_of_read read) visit values raises ?_ told
      rintro f rfl
      cases named
    · rw [EvalError.raised_depth] at named told
      split at named
      · rename_i writable
        rw [if_pos writable] at told
        have shown : (Number.int limit).text? = .ok (Number.int limit).text := if_pos writable
        simp only [Failure.message?, EvalError.message?] at told
        rw [show (ofTable stack table limit).limit = limit from rfl, shown] at told
        cases told
        have opening : Visible "maximum evaluation depth of " := by decide
        exact (opening.append (Number.int limit).visible_text).append (by decide)
      · cases named

end Interpreter

end

end LambdaCalc
