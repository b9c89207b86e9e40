import LambdaCalc.Host.Stock
import LambdaCalc.Interpreter
import LambdaCalc.Proofs.Eval.Invariant
import LambdaCalc.Proofs.Numeral.Range
import LambdaCalc.Proofs.Source

namespace LambdaCalc

theorem Grammar.derives_literals {room : Room} {nonterminal : Nonterminal} {n : Nat} {lexemes : List Lexeme}
    {e : Expr} (derivation : Derives room nonterminal n lexemes e) : e.Satisfies fun m => m.hasNumeral = true := by
  induction derivation with
  | literal numeral =>
    intro m member
    rw [List.mem_singleton.mp member]
    exact Numeral.hasNumeral_of_read numeral
  | name free => exact fun m member => absurd member List.not_mem_nil
  | group inside ih => exact ih
  | call operands before inside first rest =>
    intro m member
    rcases List.mem_append.mp member with front | back
    · exact first m front
    · obtain ⟨e, among, literal⟩ := Expr.mem_literalsAll back
      obtain ⟨o, operand, rfl⟩ := List.mem_map.mp among
      exact rest o operand m literal
  | primary whole ih => exact ih
  | lambda free distinct inside ih => exact ih

theorem Expr.literals_of_read {room : Room} {source : String} {e : Expr}
    (read : Expr.read room source = .ok (some e)) : e.Satisfies fun m => m.hasNumeral = true := by
  obtain ⟨tokens, n, -, derivation, -⟩ := Grammar.derives_of_read read
  exact Grammar.derives_literals derivation

theorem EvalError.raised_of_ne_depth {e : EvalError} (other : ∀ limit, e ≠ .depth limit) : e.raised = e := by
  cases e with
  | depth limit => exact absurd rfl (other limit)
  | unbound | notCallable | arity | primitive | escaped => rfl

theorem EvalError.raised_depth (limit : Int) :
    (depth limit).raised =
      if (Number.int limit).isWritable then depth limit else escaped .tooManyDigits := by
  by_cases writable : (Number.int limit).isWritable
  · simp only [raised, message?, Number.text?, writable, Except.map]
    rfl
  · simp only [raised, message?, Number.text?, writable, Except.map]
    rfl

theorem eval_ne_depth {levels : Nat} {env : Env} {e : Expr} {v w : World} {err : EvalError}
    (failed : eval levels env e w = (.error (.error err), v)) (limit : Int) : err ≠ .depth limit := by
  rcases eval_settles_or_exhausted levels env e w.serial w.calls with
    ⟨h, ⟨outcome, calls, serial⟩, derivation, enough⟩ | stopped
  · have ran := derivation.eval_eq levels enough w.calls
    rw [failed] at ran
    cases outcome with
    | ok value => cases ran
    | error other =>
      cases ran
      exact fun same => derivation.ne_depth limit (congrArg Except.error same)
  · rw [failed] at stopped
    cases stopped

namespace Interpreter

def start (i : Interpreter) (e : Expr) : Moment :=
  .evaluating (levelsFor i.stack.levels 0 i.limit) i.env e i.world

def Reaches (i : Interpreter) (source : String) (m : Moment) : Prop :=
  ∃ e, Expr.read i.stack.reading source = .ok (some e) ∧ (i.start e).Reaches m

def report (limit : Int) : Except Stop Value × World → Except Failure (Option Value) × World
  | (.ok value, v) => (.ok (some value), v)
  | (.error (.error e), v) => (.error (.eval e), v)
  | (.error .exhausted, v) => (.error (.eval (EvalError.depth limit).raised), v)

theorem report_world (limit : Int) (ran : Except Stop Value × World) : (report limit ran).2 = ran.2 := by
  rcases ran with ⟨outcome, v⟩
  cases outcome with
  | ok value => rfl
  | error stop => cases stop <;> rfl

theorem eval_of_read (i : Interpreter) {source : String} {e : Expr}
    (read : Expr.read i.stack.reading source = .ok (some e)) :
    i.eval source = report i.limit (i.start e).outcome := by
  simp only [eval, evaluateSource, read, evaluate_eq, start, Moment.outcome]
  rcases ran : LambdaCalc.eval (levelsFor i.stack.levels 0 i.limit) i.env e i.world with ⟨outcome, v⟩
  cases outcome with
  | ok value => rfl
  | error stop =>
    cases stop with
    | error err => simp only [report, EvalError.raised_of_ne_depth fun limit => eval_ne_depth ran limit]
    | exhausted => rfl

theorem eval_cases (i : Interpreter) (source : String) :
    (∃ err, i.eval source = (.error (.read err), i.world)) ∨ i.eval source = (.ok none, i.world) ∨
      ∃ e, Expr.read i.stack.reading source = .ok (some e) ∧ i.eval source = report i.limit (i.start e).outcome := by
  cases read : Expr.read i.stack.reading source with
  | error err =>
    left
    exact ⟨err, by simp only [eval, evaluateSource, read]⟩
  | ok answer =>
    right
    cases answer with
    | none => exact .inl (by simp only [eval, evaluateSource, read])
    | some e => exact .inr ⟨e, rfl, i.eval_of_read read⟩

variable {i : Interpreter} {source : String}

theorem blank_of_eval (none : (i.eval source).1 = .ok none) : ∀ c ∈ source.toList, Text.isBlank c = true := by
  cases read : Expr.read i.stack.reading source with
  | error err =>
    simp only [eval, evaluateSource, read] at none
    cases none
  | ok answer =>
    cases answer with
    | none => exact Expr.read_eq_none_iff.mp read
    | some e =>
      rw [i.eval_of_read read] at none
      rcases outcome : (i.start e).outcome with ⟨result, v⟩
      rw [outcome] at none
      cases result with
      | ok u => cases none
      | error stop => cases stop <;> cases none

theorem eval_eq_ok {value : Value} (yields : (i.eval source).1 = .ok (some value)) :
    ∃ e v, Expr.read i.stack.reading source = .ok (some e) ∧ (i.start e).outcome = (.ok value, v) := by
  rcases i.eval_cases source with ⟨err, refused⟩ | blank | ⟨e, read, ran⟩
  · rw [refused] at yields
    cases yields
  · rw [blank] at yields
    cases yields
  · rw [ran] at yields
    rcases outcome : (i.start e).outcome with ⟨result, v⟩
    rw [outcome] at yields
    cases result with
    | ok u =>
      cases yields
      exact ⟨e, v, read, outcome⟩
    | error stop => cases stop <;> cases yields

theorem eval_eq_error {err : EvalError} (failed : (i.eval source).1 = .error (.eval err)) :
    ∃ e v, Expr.read i.stack.reading source = .ok (some e) ∧ ((i.start e).outcome = (.error (.error err), v) ∨
      (i.start e).outcome = (.error .exhausted, v) ∧ err = (EvalError.depth i.limit).raised) := by
  rcases i.eval_cases source with ⟨refusal, refused⟩ | blank | ⟨e, read, ran⟩
  · rw [refused] at failed
    cases failed
  · rw [blank] at failed
    cases failed
  · rw [ran] at failed
    rcases outcome : (i.start e).outcome with ⟨result, v⟩
    rw [outcome] at failed
    refine ⟨e, v, read, ?_⟩
    cases result with
    | ok u => cases failed
    | error stop =>
      cases stop with
      | error other =>
        cases failed
        exact .inl outcome
      | exhausted =>
        cases failed
        exact .inr ⟨outcome, rfl⟩

theorem reaches_satisfies {p : Number → Prop} {stack : Stack} {table : List (String × Host)} {limit : Int}
    (keeps : ∀ entry ∈ table, entry.2.Keeps p) (numerals : ∀ n, n.hasNumeral = true → p n) {m : Moment}
    (reached : (ofTable stack table limit).Reaches source m) : m.Satisfies p := by
  obtain ⟨e, read, later⟩ := reached
  have first : ((ofTable stack table limit).start e).Satisfies p :=
    ⟨Env.satisfies_ofTable keeps 0, fun n member => numerals n (Expr.literals_of_read read n member)⟩
  exact first.reaches later

end Interpreter

theorem Host.keeps_isBounded (host : Host) : host.Keeps fun n => n.isBounded = true :=
  fun _ _ _ _ inside => Number.isBounded_of_inRange inside

theorem Value.text?_of_satisfies {value : Value} (bounded : value.Satisfies fun n => n.isBounded = true) :
    ∃ s, value.text? = .ok s ∧ notCallable value = .notCallable s := by
  have shown : ∃ s, value.text? = .ok s := by
    cases bounded with
    | number holds => exact ⟨_, Number.text?_of_isBounded holds⟩
    | closure | primitive => exact ⟨_, rfl⟩
  obtain ⟨s, text⟩ := shown
  exact ⟨s, text, by simp only [notCallable, text]⟩

/-- A fault of the host itself: the function breaks down without rejecting its arguments, or it rejects
them and what it says of them cannot be written, or what it answers cannot be displayed. -/
inductive Host.Reply.Breaks (reply : Host.Reply) (f : Fault) : Prop where
  | broken (raised : reply.result = .error f) (breakdown : f.isRejection = false)
  | untold {g : Fault} (raised : reply.result = .error g) (rejection : g.isRejection = true)
      (untold : g.message? = .error f)
  | undisplayed (answered : reply.result = .ok (.object (.error f)))

theorem breaks_of_acceptAnswer {name : String} {reply : Host.Reply} {f : Fault}
    (escaped : acceptAnswer name reply.result = .error (.escaped f)) : reply.Breaks f := by
  unfold acceptAnswer at escaped
  split at escaped
  · rename_i g failed
    split at escaped
    · rename_i rejection
      split at escaped
      · cases escaped
      · rename_i untold
        cases escaped
        exact .untold failed rejection untold
    · rename_i rejection
      cases escaped
      exact .broken failed (Bool.eq_false_iff.mpr rejection)
  · cases escaped
  · rename_i g undisplayed
    cases escaped
    exact .undisplayed undisplayed
  · split at escaped <;> cases escaped

theorem Moment.breaks_of_raises {m : Moment} {f : Fault} (raises : m.Raises (.escaped f))
    (bounded : m.Satisfies fun n => n.isBounded = true) :
    ∃ name host numbers, m.Calls name host numbers ∧ (host numbers).Breaks f := by
  generalize same : EvalError.escaped f = err at raises
  cases raises with
  | unbound absent => cases same
  | arity mismatch => cases same
  | rejected notNumbers =>
    obtain ⟨detail, other⟩ := numbersOf_eq_error notNumbers
    rw [other] at same
    cases same
  | refused call answer => exact ⟨_, _, _, call, breaks_of_acceptAnswer (same ▸ answer)⟩
  | number =>
    obtain ⟨s, -, shown⟩ := Value.text?_of_satisfies bounded.1
    rw [shown] at same
    cases same

namespace Interpreter

variable {stack : Stack} {table : List (String × Host)} {limit : Int} {source : String}

theorem reaches_bounded {m : Moment} (reached : (ofTable stack table limit).Reaches source m) :
    m.Satisfies fun n => n.isBounded = true :=
  reaches_satisfies (fun entry _ => entry.2.keeps_isBounded) (fun _ => Number.isBounded_of_hasNumeral) reached

theorem exists_breaks {e : Expr} {f : Fault} {v : World} (read : Expr.read stack.reading source = .ok (some e))
    (outcome : ((ofTable stack table limit).start e).outcome = (.error (.error (.escaped f)), v)) :
    ∃ m name host numbers, (ofTable stack table limit).Reaches source m ∧ m.Calls name host numbers ∧
      (host numbers).Breaks f := by
  obtain ⟨m, later, raises⟩ := Moment.exists_raises_evaluating outcome
  have reached : (ofTable stack table limit).Reaches source m := ⟨e, read, later⟩
  obtain ⟨name, host, numbers, call, breaks⟩ := m.breaks_of_raises raises (reaches_bounded reached)
  exact ⟨m, name, host, numbers, reached, call, breaks⟩

/-- Whatever the host functions do, at every moment of evaluating a text the numbers at hand are in
bounds, those that host functions are called with among them, and every value can be shown, also in an
error. What the text comes to is at hand at such a moment, the log holds only what host functions left
that were called there, and a fault escapes only from a host function, or from writing the limit. -/
theorem numbers_bounded (stack : Stack) (table : List (String × Host)) (limit : Int) (source : String) :
    let i := ofTable stack table limit
    (∀ m, i.Reaches source m →
      (∀ n, m.Has (.number n) → n.isBounded = true) ∧
      (∀ value, m.Has value → ∃ s, value.text? = .ok s ∧ notCallable value = .notCallable s) ∧
      (∀ name host numbers, m.Calls name host numbers → ∀ n ∈ numbers, n.isBounded = true)) ∧
    (∀ value, (i.eval source).1 = .ok (some value) → ∃ m, i.Reaches source m ∧ m.Has value) ∧
    (∀ entry ∈ (i.eval source).2.calls, ∃ m name host numbers,
      i.Reaches source m ∧ m.Calls name host numbers ∧ entry ∈ (host numbers).entries) ∧
    (∀ f, (i.eval source).1 = .error (.eval (.escaped f)) →
      (∃ m name host numbers,
        i.Reaches source m ∧ m.Calls name host numbers ∧ (host numbers).Breaks f) ∨
      (Number.int limit).text? = .error f) := by
  intro i
  refine ⟨?_, ?_, ?_, ?_⟩
  · intro m reached
    have invariant := reaches_bounded reached
    refine ⟨?_, ?_, fun name host numbers => invariant.calls⟩
    · intro n atHand
      cases invariant.has atHand with
      | number holds => exact holds
    · exact fun value atHand => Value.text?_of_satisfies (invariant.has atHand)
  · intro value yields
    obtain ⟨e, v, read, outcome⟩ := eval_eq_ok yields
    exact ⟨i.start e, ⟨e, read, .refl⟩, .result outcome⟩
  · intro entry member
    rcases i.eval_cases source with ⟨err, refused⟩ | blank | ⟨e, read, ran⟩
    · rw [refused] at member
      exact absurd member List.not_mem_nil
    · rw [blank] at member
      exact absurd member List.not_mem_nil
    · rw [ran, report_world] at member
      rcases Moment.mem_calls_evaluating member with none | ⟨m, name, host, numbers, later, call, inside⟩
      · exact absurd none List.not_mem_nil
      · exact ⟨m, name, host, numbers, ⟨e, read, later⟩, call, inside⟩
  · intro f failed
    obtain ⟨e, v, read, outcome | ⟨-, limited⟩⟩ := eval_eq_error failed
    · exact .inl (exists_breaks read outcome)
    · right
      rw [EvalError.raised_depth] at limited
      split at limited
      · cases limited
      · rename_i unwritable
        cases limited
        exact if_neg unwritable

/-- One host function answers what is out of bounds and is refused; the answer of the other is in the log
and in the frame of a closure, where it is in bounds. -/
theorem numbers_bounded_captured :
    let table := [("inf", Host.constant (.float (.infinite false))), ("rec", Host.recorder)]
    let i := ofTable .usual table 4
    let source := "(lambda x: lambda: x)(rec(7))"
    (i.eval "inf()").1 = .error (.eval (.primitive "inf" "result is out of range")) ∧
    (i.eval source).2.calls = [[.int 7]] ∧
    ∃ m, i.Reaches source m ∧ m.Has (.number (.int 7)) ∧ (Number.int 7).isBounded = true := by
  intro table i source
  have read : Expr.read Stack.usual.reading "(lambda x: lambda: x)(rec(7))" = .ok (some (.call
      (.lambda ["x"] (.lambda [] (.name "x"))) [.call (.name "rec") [.literal (.int 7)]])) := rfl
  have captured : i.eval source = (.ok (some (.closure 5 [] (.name "x")
      (i.env.extend 4 ["x"] [.number (.int 7)]))), ⟨[[.int 7]], 6⟩) := by
    rw [i.eval_of_read read]
    rfl
  obtain ⟨moments, results, -⟩ := numbers_bounded .usual table 4 source
  obtain ⟨m, reached, closure⟩ := results _ (congrArg Prod.fst captured)
  have kept : m.Has (.number (.int 7)) :=
    @Moment.Has.kept _ _ _ _ _ _ ("x", .number (.int 7)) closure List.mem_cons_self List.mem_cons_self
  exact ⟨rfl, by rw [captured], m, reached, kept, (moments m reached).1 (.int 7) kept⟩

end Interpreter

end LambdaCalc
