import LambdaCalc.Repl
import LambdaCalc.Proofs.Interpreter.Default
import LambdaCalc.Proofs.Reader.Canonical

namespace LambdaCalc

theorem Expr.writable_of_read {room : Room} {source : String} {e : Expr}
    (read : Expr.read room source = .ok (some e)) (d : Descent) :
    e.writable d = if e.fits d then .ok () else .error .tooDeep := by
  have literals : e.literals.all Number.isWritable = true :=
    List.all_eq_true.mpr fun n => isWritable_of_mem_literals e (wellFormed_of_read read)
  rw [writable, literals]
  cases e.fits d <;> rfl

theorem Interpreter.outcome_of_read (i : Interpreter) {source : String} {e : Expr}
    (read : Expr.read i.stack.reading source = .ok (some e)) :
    (i.eval source).1 =
      match (evaluate i.stack.levels i.limit i.env e i.world).1 with
      | .ok value => .ok (some value)
      | .error err => .error (.eval err.raised) := by
  simp only [eval, evaluateSource, read]
  rcases evaluate i.stack.levels i.limit i.env e i.world with ⟨result, w⟩
  cases result <;> rfl

namespace Repl

inductive Request where
  | help
  | tree (source : String)
  | leave
  | unknown (name : String)
  | value (source : String)

def request (line : String) : Request :=
  let text := Text.strip line
  if text.toList.head? = some '/' then
    let name := (splitCommand text).1
    if name = "/help" then .help
    else if name = "/ast" then .tree (splitCommand text).2
    else if name = "/exit" then .leave
    else .unknown name
  else .value text

namespace Request

def answer (r : Repl) : Request → Except Breakdown Line
  | help => .ok { output := helpText ++ "\n" }
  | tree source => r.astLine source
  | leave => .ok { exits := true }
  | unknown name => .ok { output := "Unknown command: " ++ name ++ " (try /help)\n", ok := false }
  | value source => r.evalLine source

/-- Whether an error is reported: the command is not known, or the text is refused by the reader, or it is
to be evaluated and has no value. -/
def Fails (i : Interpreter) : Request → Prop
  | help => False
  | tree source => ∃ err, Expr.read i.stack.reading source = .error err
  | leave => False
  | unknown _ => True
  | value source => ∃ failure, (i.eval source).1 = .error failure

/-- Whether a record cannot be written. That of the reading shows how the expression is built up, and that of
the evaluation, which is made only if there is a value, shows its text. -/
def Unwritten (i : Interpreter) : Request → Prop
  | help => False
  | tree source => ∃ e, Expr.read i.stack.reading source = .ok (some e) ∧ e.fits i.stack.construction = false
  | leave => False
  | unknown _ => False
  | value source => ∃ e, Expr.read i.stack.reading source = .ok (some e) ∧
    (e.fits i.stack.construction = false ∨
      (∃ value, (i.eval source).1 = .ok (some value)) ∧ e.fits i.stack.source = false)

end Request

theorem processLine_eq (r : Repl) (line : String) : r.processLine line = (request line).answer r := by
  simp only [processLine, request]
  repeat' split
  all_goals rfl

def recorded (debug fits : Bool) (records : List Log.Record) : Except Breakdown (List Log.Record) :=
  if debug then if fits then .ok records else .error .tooDeep else .ok []

/-- An answer comes with some records, unless they are kept and one of them cannot be written. -/
inductive Logged (answer : Line) (debug : Bool) (unwritten : Prop) : Except Breakdown Line → Prop where
  | kept (records : List Log.Record) (written : ¬(debug = true ∧ unwritten)) :
      Logged answer debug unwritten (.ok { answer with records := records })
  | lost (kept : debug = true) (tooDeep : unwritten) : Logged answer debug unwritten (.error .tooDeep)

namespace Logged

variable {answer : Line} {debug : Bool} {unwritten other : Prop} {result : Except Breakdown Line}

theorem congr (logged : Logged answer debug unwritten result) (same : unwritten ↔ other) :
    Logged answer debug other result := propext same ▸ logged

theorem unread (answer : Line) (debug : Bool) : Logged answer debug False (.ok answer) :=
  .kept answer.records And.right

theorem quiet (logged : Logged answer false unwritten result) :
    ∃ records, result = .ok { answer with records := records } := by
  cases logged with
  | kept records written => exact ⟨records, rfl⟩
  | lost kept tooDeep => cases kept

theorem record {fits : Bool} {next : List Log.Record → Except Breakdown Line}
    (rest : ∀ records, Logged answer debug other (next records)) (records : List Log.Record) :
    Logged answer debug (fits = false ∨ other) ((recorded debug fits records).bind next) := by
  cases debug with
  | false =>
    change Logged answer false _ (next [])
    generalize next [] = result, rest [] = logged
    cases logged with
    | kept records written => exact .kept records fun both => Bool.false_ne_true both.1
    | lost kept tooDeep => exact absurd kept Bool.false_ne_true
  | true =>
    cases fits with
    | true => exact (rest records).congr (by simp)
    | false => exact .lost rfl (.inl rfl)

end Logged

def reportOf (kind message : String) : Line := { output := kind ++ ": " ++ message ++ "\n", ok := false }

/-- What is printed for the outcome of an evaluation. -/
inductive Prints : Except Failure (Option Value) → Line → Prop where
  | nothing : Prints (.ok none) {}
  | value {v : Value} {s : String} (shown : v.text? = .ok s) :
      Prints (.ok (some v)) { output := s ++ "\n" }
  | report {f : Failure} {kind message : String} (named : f.kind? = .ok kind)
      (told : f.message? = .ok message) : Prints (.error f) (reportOf kind message)

theorem Prints.ok_iff {outcome : Except Failure (Option Value)} {answer : Line}
    (prints : Prints outcome answer) : answer.ok = false ↔ ∃ failure, outcome = .error failure := by
  cases prints with
  | nothing => simp
  | value shown => simp
  | report named told => simp [reportOf]

theorem prints_or_unwritten (stack : Stack) (limit : Int) (source : String) :
    (∃ answer, Prints ((Interpreter.default stack limit).eval source).1 answer) ∨
      ((Interpreter.default stack limit).eval source).1 = .error (.eval (.escaped .tooManyDigits)) ∧
        (Number.int limit).isWritable = false := by
  cases outcome : ((Interpreter.default stack limit).eval source).1 with
  | error failure =>
    rcases Interpreter.reported_or_unwritten outcome with ⟨kind, message, named, told⟩ | ⟨rfl, unwritable⟩
    · exact .inl ⟨_, .report named told⟩
    · exact .inr ⟨rfl, unwritable⟩
  | ok value =>
    left
    cases value with
    | none => exact ⟨_, .nothing⟩
    | some v =>
      obtain ⟨s, shown⟩ := Interpreter.text?_of_default outcome
      exact ⟨_, .value shown⟩

theorem exists_prints (stack : Stack) {limit : Int} (writable : (Number.int limit).isWritable = true)
    (source : String) : ∃ answer, Prints ((Interpreter.default stack limit).eval source).1 answer := by
  rcases prints_or_unwritten stack limit source with printed | ⟨-, unwritable⟩
  · exact printed
  · exact absurd (writable.symm.trans unwritable) Bool.false_ne_true.symm

section

variable {source : String} {e : Expr}

theorem readRecord_of_read (r : Repl) (read : Expr.read r.interpreter.stack.reading source = .ok (some e)) :
    ∃ records, r.readRecord source (some e) =
      recorded r.debug (e.fits r.interpreter.stack.construction) records := by
  simp only [readRecord, Expr.construction?, Expr.writable_of_read read]
  cases e.fits r.interpreter.stack.construction with
  | true => exact ⟨_, rfl⟩
  | false => exact ⟨[], rfl⟩

theorem readRecord_none (r : Repl) (source : String) : ∃ records, r.readRecord source none = .ok records := by
  simp only [readRecord]
  split
  · exact ⟨_, rfl⟩
  · exact ⟨_, rfl⟩

theorem evalRecord_of_read (r : Repl) {v : Value} {s : String}
    (read : Expr.read r.interpreter.stack.reading source = .ok (some e)) (shown : v.text? = .ok s) :
    ∃ records, r.evalRecord e v = recorded r.debug (e.fits r.interpreter.stack.source) records := by
  simp only [evalRecord, Expr.source?, Expr.writable_of_read read, shown]
  cases e.fits r.interpreter.stack.source with
  | true => exact ⟨_, rfl⟩
  | false => exact ⟨[], rfl⟩

theorem report_of_kind {f : Failure} {kind message : String} (named : f.kind? = .ok kind)
    (told : f.message? = .ok message) (r : Repl) (records : List Log.Record) :
    ∃ more, r.report records f = .ok { reportOf kind message with records := more } := by
  simp only [report, named, told]
  exact ⟨_, rfl⟩

theorem logged_of_refused {unwritten : Prop} (r : Repl) (err : ReadError) (written : ¬unwritten) :
    Logged (reportOf "CombinatorSyntaxError" err.message) r.debug unwritten (r.report [] (.read err)) := by
  obtain ⟨more, done⟩ := @report_of_kind (.read err) _ _ rfl rfl r []
  rw [done]
  exact .kept more fun both => written both.2

theorem logged_of_blank {unwritten : Prop} (r : Repl) (source : String) (written : ¬unwritten) :
    Logged {} r.debug unwritten ((r.readRecord source none).map fun records => { records := records }) := by
  obtain ⟨records, done⟩ := r.readRecord_none source
  rw [done]
  exact .kept records fun both => written both.2

theorem unwritten_value_iff {i : Interpreter} (read : Expr.read i.stack.reading source = .ok (some e)) :
    (Request.value source).Unwritten i ↔ e.fits i.stack.construction = false ∨
      (∃ value, (i.eval source).1 = .ok (some value)) ∧ e.fits i.stack.source = false := by
  simp only [Request.Unwritten, read, Except.ok.injEq, Option.some.injEq, exists_eq_left']

theorem unwritten_tree_iff {i : Interpreter} (read : Expr.read i.stack.reading source = .ok (some e)) :
    (Request.tree source).Unwritten i ↔ e.fits i.stack.construction = false ∨ False := by
  simp only [Request.Unwritten, read, Except.ok.injEq, Option.some.injEq, exists_eq_left', or_false]

theorem evalLine_logged {i : Interpreter} {answer : Line} (prints : Prints (i.eval source).1 answer)
    (prompt : String) (debug : Bool) :
    Logged answer debug ((Request.value source).Unwritten i) (evalLine ⟨i, prompt, debug⟩ source) := by
  cases read : Expr.read i.stack.reading source with
  | error err =>
    have written : ¬(Request.value source).Unwritten i := by simp [Request.Unwritten, read]
    simp only [Interpreter.eval, evaluateSource, read] at prints
    simp only [evalLine, read]
    cases prints with
    | report named told =>
      cases named
      cases told
      exact logged_of_refused ⟨i, prompt, debug⟩ err written
  | ok expression =>
    cases expression with
    | none =>
      have written : ¬(Request.value source).Unwritten i := by simp [Request.Unwritten, read]
      simp only [Interpreter.eval, evaluateSource, read] at prints
      simp only [evalLine, read]
      cases prints with
      | nothing => exact logged_of_blank ⟨i, prompt, debug⟩ source written
    | some e =>
      obtain ⟨records, record⟩ := readRecord_of_read ⟨i, prompt, debug⟩ read
      have outcome := i.outcome_of_read read
      simp only [evalLine, read, record]
      refine (Logged.record (fun records => ?_) records).congr (unwritten_value_iff read).symm
      cases ran : (evaluate i.stack.levels i.limit i.env e i.world).1 with
      | error failure =>
        rw [ran] at outcome
        rw [outcome] at prints ⊢
        cases prints with
        | report named told =>
          obtain ⟨more, done⟩ := report_of_kind named told ⟨i, prompt, debug⟩ records
          simp only [done]
          exact .kept more (by simp)
      | ok v =>
        rw [ran] at outcome
        rw [outcome] at prints ⊢
        cases prints with
        | @value _ s shown =>
          obtain ⟨further, record⟩ := evalRecord_of_read ⟨i, prompt, debug⟩ read shown
          simp only [record, shown]
          have done : ∀ more, Logged { output := s ++ "\n" } debug False
              (.ok { output := s ++ "\n", records := records ++ more }) := fun more =>
            .kept (records ++ more) And.right
          exact (Logged.record done further).congr (by simp)

theorem astLine_of_read {i : Interpreter} (read : Expr.read i.stack.reading source = .ok (some e)) :
    ∃ text, ∀ prompt debug, astLine ⟨i, prompt, debug⟩ source =
      (readRecord ⟨i, prompt, debug⟩ source (some e)).bind fun records =>
        .ok { output := text, records := records } := by
  simp only [astLine, read, Expr.tree?, Expr.writable_of_read read]
  cases e.fits i.stack.tree with
  | false => exact ⟨"<expression too deeply nested to display>\n", fun prompt debug => rfl⟩
  | true => exact ⟨e.tree 0 ++ "\n", fun prompt debug => rfl⟩

theorem astLine_logged (i : Interpreter) (source : String) :
    ∃ answer : Line, (answer.ok = false ↔ (Request.tree source).Fails i) ∧
      ∀ prompt debug, Logged answer debug ((Request.tree source).Unwritten i)
        (astLine ⟨i, prompt, debug⟩ source) := by
  cases read : Expr.read i.stack.reading source with
  | error err =>
    have written : ¬(Request.tree source).Unwritten i := by simp [Request.Unwritten, read]
    refine ⟨reportOf "CombinatorSyntaxError" err.message, iff_of_true rfl ⟨err, read⟩, fun prompt debug => ?_⟩
    simp only [astLine, read]
    exact logged_of_refused ⟨i, prompt, debug⟩ err written
  | ok answer =>
    have accepted : ¬(Request.tree source).Fails i := by simp [Request.Fails, read]
    cases answer with
    | none =>
      have written : ¬(Request.tree source).Unwritten i := by simp [Request.Unwritten, read]
      refine ⟨{}, iff_of_false Bool.false_ne_true.symm accepted, fun prompt debug => ?_⟩
      simp only [astLine, read]
      exact logged_of_blank ⟨i, prompt, debug⟩ source written
    | some e =>
      obtain ⟨text, printed⟩ := astLine_of_read read
      refine ⟨{ output := text }, iff_of_false Bool.false_ne_true.symm accepted, fun prompt debug => ?_⟩
      obtain ⟨records, record⟩ := readRecord_of_read ⟨i, prompt, debug⟩ read
      rw [printed, record]
      have done : ∀ more, Logged { output := text } debug False (.ok { output := text, records := more }) :=
        fun more => .kept more And.right
      exact (Logged.record done records).congr (unwritten_tree_iff read).symm

theorem evalLine_of_escaped {i : Interpreter} {f : Fault}
    (escaped : (i.eval source).1 = .error (.eval (.escaped f))) (prompt : String) :
    evalLine { interpreter := i, prompt := prompt } source = .error (.fault f) := by
  cases read : Expr.read i.stack.reading source with
  | error err =>
    simp only [Interpreter.eval, evaluateSource, read] at escaped
    cases escaped
  | ok expression =>
    cases expression with
    | none =>
      simp only [Interpreter.eval, evaluateSource, read] at escaped
      cases escaped
    | some e =>
      have outcome := i.outcome_of_read read
      rw [escaped] at outcome
      simp only [evalLine, read, readRecord, Except.bind]
      cases ran : (evaluate i.stack.levels i.limit i.env e i.world).1 with
      | ok v =>
        rw [ran] at outcome
        cases outcome
      | error failure =>
        rw [ran] at outcome
        have same : failure.raised = .escaped f := (Failure.eval.inj (Except.error.inj outcome)).symm
        simp only [same]
        rfl

theorem processLine_or_unwritten (stack : Stack) (limit : Int) (prompt line : String) :
    (∃ answer, processLine { interpreter := Interpreter.default stack limit, prompt := prompt } line =
        .ok answer) ∨
      processLine { interpreter := Interpreter.default stack limit, prompt := prompt } line =
          .error (.fault .tooManyDigits) ∧
        (Number.int limit).isWritable = false := by
  simp only [processLine_eq]
  cases request line with
  | help | leave | unknown => exact .inl ⟨_, rfl⟩
  | tree source =>
    obtain ⟨answer, -, logged⟩ := astLine_logged (Interpreter.default stack limit) source
    obtain ⟨records, answered⟩ := (logged prompt false).quiet
    exact .inl ⟨_, answered⟩
  | value source =>
    rcases prints_or_unwritten stack limit source with ⟨answer, prints⟩ | ⟨escaped, unwritable⟩
    · obtain ⟨records, answered⟩ := (evalLine_logged prints prompt false).quiet
      exact .inl ⟨_, answered⟩
    · exact .inr ⟨evalLine_of_escaped escaped prompt, unwritable⟩

theorem processLine_logged {i : Interpreter} (prints : ∀ source, ∃ answer, Prints (i.eval source).1 answer)
    (line : String) :
    ∃ answer : Line, (answer.ok = false ↔ (request line).Fails i) ∧
      ∀ prompt debug, Logged answer debug ((request line).Unwritten i)
        (processLine ⟨i, prompt, debug⟩ line) := by
  simp only [processLine_eq]
  cases request line with
  | help => exact ⟨_, iff_of_false Bool.false_ne_true.symm id, fun _ debug => .unread _ debug⟩
  | leave => exact ⟨_, iff_of_false Bool.false_ne_true.symm id, fun _ debug => .unread _ debug⟩
  | unknown name => exact ⟨_, iff_of_true rfl trivial, fun _ debug => .unread _ debug⟩
  | tree source => exact astLine_logged i source
  | value source =>
    obtain ⟨answer, prints⟩ := prints source
    exact ⟨answer, prints.ok_iff, evalLine_logged prints⟩

end

end Repl

end LambdaCalc
