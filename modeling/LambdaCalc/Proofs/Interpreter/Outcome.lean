import LambdaCalc.Proofs.Eval.Visits
import LambdaCalc.Proofs.Interpreter.Range

namespace LambdaCalc

attribute [local instance (high)] instPowNat

/-- Whatever the function answers can be displayed, as long as its arguments are in bounds. -/
def Host.Displays (host : Host) : Prop :=
  ∀ numbers : List Number, (∀ n ∈ numbers, n.isBounded = true) →
    ∀ f, (host numbers).result ≠ .ok (.object (.error f))

namespace Host

theorem displays_ofFunction (f : List Number → Except Fault Number) : (ofFunction f).Displays := by
  intro numbers _ fault undisplayed
  simp only [ofFunction] at undisplayed
  cases result : f numbers with
  | error other =>
    rw [result] at undisplayed
    cases undisplayed
  | ok n =>
    rw [result] at undisplayed
    cases undisplayed

theorem displays_recorder : recorder.Displays := by
  intro numbers _ fault undisplayed
  cases undisplayed

theorem displays_answering (display : String) : (answering display).Displays := by
  intro numbers _ fault undisplayed
  cases undisplayed

theorem displays_lister : lister.Displays := by
  intro numbers bounded fault undisplayed
  -- A list shows its items, and these are the arguments.
  have items : numbers.mapM Number.display? = .ok (numbers.map Number.display) := by
    clear undisplayed
    induction numbers with
    | nil => rfl
    | cons n rest ih =>
      have first : n.display? = .ok n.display :=
        if_pos (Number.isWritable_of_isBounded (bounded n List.mem_cons_self))
      rw [List.mapM_cons, first, ih fun m member => bounded m (List.mem_cons_of_mem n member)]
      rfl
  simp only [lister, items] at undisplayed
  cases undisplayed

theorem stock_displays : ∀ entry ∈ stock, entry.2.Displays := by
  simp only [stock, primitives, List.cons_append, List.nil_append, List.forall_mem_cons, List.not_mem_nil,
    false_implies, implies_true, and_true]
  and_intros
  all_goals first
    | exact displays_ofFunction _
    | exact displays_recorder
    | exact displays_answering _
    | exact displays_lister

end Host

namespace Interpreter

/-- The ways in which evaluating a text is declared to end: there is no value for blank text, or a value that
can be shown, or an error of the language with its message, or a fault that a host function raised and that
does not reject its arguments. -/
inductive Declared (i : Interpreter) (table : List (String × Host)) (source : String) :
    Except Failure (Option Value) → Prop where
  | blank (text : ∀ c ∈ source.toList, Text.isBlank c = true) : Declared i table source (.ok none)
  | value {value : Value} {s : String} (shown : value.text? = .ok s) :
      Declared i table source (.ok (some value))
  /-- A limit is reported only if it is that of the interpreter. -/
  | reported {failure : Failure} {kind message : String} (named : failure.kind? = .ok kind)
      (told : failure.message? = .ok message)
      (own : ∀ reached, failure = .eval (.depth reached) → reached = i.limit) :
      Declared i table source (.error failure)
  | passed {f : Fault} {m : Moment} {name : String} {host : Host} {numbers : List Number}
      (reached : i.Reaches source m) (entry : (name, host) ∈ table) (call : m.Calls name host numbers)
      (raised : (host numbers).result = .error f) (foreign : f.isRejection = false) :
      Declared i table source (.error (.eval (.escaped f)))

/-- The faults that nobody declares. Both come of writing a message: that of a host function which rejects
its arguments, or that of the limit. -/
inductive Slips (i : Interpreter) (table : List (String × Host)) (source : String) : Fault → Prop where
  | untold {f g : Fault} {m : Moment} {name : String} {host : Host} {numbers : List Number}
      (reached : i.Reaches source m) (entry : (name, host) ∈ table) (call : m.Calls name host numbers)
      (raised : (host numbers).result = .error g) (rejection : g.isRejection = true)
      (untold : g.message? = .error f) : Slips i table source f
  | unwritten {e : Expr} (read : Expr.read i.stack.reading source = .ok (some e))
      (exhausted : (i.start e).outcome.1 = .error .exhausted)
      (unwritable : (Number.int i.limit).isWritable = false) : Slips i table source .tooManyDigits

inductive Ends (i : Interpreter) (table : List (String × Host)) (source : String) :
    Except Failure (Option Value) → Prop where
  | declared {outcome : Except Failure (Option Value)} (ends : Declared i table source outcome) :
      Ends i table source outcome
  | slipped {f : Fault} (slips : Slips i table source f) : Ends i table source (.error (.eval (.escaped f)))

variable {stack : Stack} {table : List (String × Host)} {limit : Int} {source : String} {e : Expr}

theorem ends_of_escaped {f : Fault} {v : World} (displays : ∀ entry ∈ table, entry.2.Displays)
    (read : Expr.read stack.reading source = .ok (some e))
    (outcome : ((ofTable stack table limit).start e).outcome = (.error (.error (.escaped f)), v)) :
    Ends (ofTable stack table limit) table source (.error (.eval (.escaped f))) := by
  obtain ⟨m, name, host, numbers, reached, call, breaks⟩ := exists_breaks read outcome
  have entry : (name, host) ∈ table := by
    obtain ⟨_, -, later⟩ := reached
    obtain ⟨-, -, values⟩ := Moment.exists_visits later
    exact values.calls call
  cases breaks with
  | broken raised foreign => exact .declared (.passed reached entry call raised foreign)
  | untold raised rejection untold => exact .slipped (.untold reached entry call raised rejection untold)
  | undisplayed answered =>
    -- The numbers of the call are in bounds, so whatever is answered to them can be displayed.
    exact absurd answered (displays (name, host) entry numbers ((reaches_bounded reached).calls call) f)

theorem ends_of_error {err : EvalError} {v : World} (displays : ∀ entry ∈ table, entry.2.Displays)
    (read : Expr.read stack.reading source = .ok (some e))
    (outcome : ((ofTable stack table limit).start e).outcome = (.error (.error err), v)) :
    Ends (ofTable stack table limit) table source (.error (.eval err)) := by
  cases err with
  | depth reached => exact absurd rfl (eval_ne_depth outcome reached)
  | escaped f => exact ends_of_escaped displays read outcome
  | unbound | notCallable | arity | primitive => exact .declared (.reported rfl rfl nofun)

theorem ends_of_exhausted (read : Expr.read stack.reading source = .ok (some e))
    (exhausted : ((ofTable stack table limit).start e).outcome.1 = .error .exhausted) :
    Ends (ofTable stack table limit) table source (.error (.eval (EvalError.depth limit).raised)) := by
  rw [EvalError.raised_depth]
  by_cases writable : (Number.int limit).isWritable = true
  · rw [if_pos writable]
    have told : (Failure.eval (.depth limit)).message? =
        .ok ("maximum evaluation depth of " ++ (Number.int limit).text ++ " exceeded") := by
      simp only [Failure.message?, EvalError.message?, Number.text?, writable, ↓reduceIte, Except.map]
    refine .declared (.reported rfl told ?_)
    intro reached own
    cases own
    rfl
  · rw [if_neg writable]
    exact .slipped (.unwritten read exhausted (Bool.eq_false_iff.mpr writable))

theorem eval_ends (displays : ∀ entry ∈ table, entry.2.Displays) (stack : Stack) (limit : Int)
    (source : String) :
    Ends (ofTable stack table limit) table source ((ofTable stack table limit).eval source).1 := by
  rcases (ofTable stack table limit).eval_cases source with ⟨err, refused⟩ | blank | ⟨e, read, ran⟩
  · rw [refused]
    exact .declared (.reported rfl rfl nofun)
  · rw [blank]
    exact .declared (.blank (blank_of_eval (congrArg Prod.fst blank)))
  · rw [ran]
    rcases outcome : ((ofTable stack table limit).start e).outcome with ⟨result, v⟩
    cases result with
    | ok value =>
      have bounded := reaches_bounded ⟨e, read, .refl⟩
      obtain ⟨s, shown, -⟩ := Value.text?_of_satisfies (bounded.outcome outcome)
      exact .declared (.value shown)
    | error stop =>
      cases stop with
      | error err => exact ends_of_error displays read outcome
      | exhausted => exact ends_of_exhausted read (congrArg Prod.fst outcome)

end Interpreter

namespace Host

end Host

namespace Interpreter

end Interpreter

end LambdaCalc
