import LambdaCalc.Proofs.Interpreter.Message
import LambdaCalc.Proofs.Interpreter.Printed
import LambdaCalc.Proofs.Repl.Line

namespace LambdaCalc

open Text

theorem Text.not_isBlank_of_strip {s : String} (nonempty : strip s ≠ "") :
    ¬∀ c ∈ (strip s).toList, isBlank c = true := by
  intro blank
  apply nonempty
  have kept := List.head?_dropWhile_not isBlank (s.toList.dropWhile isBlank).reverse
  rw [strip, String.toList_ofList, trim] at blank
  rw [strip, trim]
  cases ending : (s.toList.dropWhile isBlank).reverse.dropWhile isBlank with
  | nil => rfl
  | cons last rest =>
    -- The last character that is left stopped the stripping, so it is not blank.
    rw [ending] at kept blank
    have stopped : isBlank last = false := by simpa using kept
    rw [blank last (by simp)] at stopped
    cases stopped

namespace Failure

def kinds : List String :=
  ["CombinatorSyntaxError", "CombinatorUnboundName", "CombinatorNotCallable", "CombinatorArityError",
    "CombinatorPrimitiveError", "CombinatorRecursionError"]

theorem mem_kinds {failure : Failure} {kind : String} (named : failure.kind? = .ok kind) : kind ∈ kinds := by
  cases failure with
  | read err =>
    cases named
    decide
  | eval err =>
    cases err with
    | escaped f => cases named
    | unbound | notCallable | arity | primitive | depth =>
      cases named
      decide
  | breakdown b => cases named

theorem kinds_visible : ∀ kind ∈ kinds, Visible kind := by
  simp only [kinds, List.forall_mem_cons, List.not_mem_nil, false_implies, implies_true, and_true]
  and_intros
  all_goals decide

theorem kinds_head : ∀ kind ∈ kinds, ∃ rest, kind.toList = 'C' :: rest := by
  simp only [kinds, List.forall_mem_cons, List.not_mem_nil, false_implies, implies_true, and_true]
  and_intros
  all_goals exact ⟨_, rfl⟩

end Failure

/-- How a value over the default primitives is written: a number as a numeral, which is one token and stands for
the number, and a function by the name of its primitive, or without a name. -/
inductive Value.Written : Value → String → Prop where
  | numeral {n : Number} {text : String} {t : Token} (scanned : Token.scan text = .ok [t])
      (lexeme : t.lexeme = .number text) (read : Numeral.read text = .ok n) : Written (.number n) text
  | closure {serial : Nat} {parameters : List String} {body : Expr} {env : Env} :
      Written (.closure serial parameters body env) "<function>"
  | primitive {serial : Nat} {name : String} {host : Host} (entry : (name, host) ∈ Host.primitives) :
      Written (.primitive serial name host) ("<function " ++ name ++ ">")

theorem Value.Written.head? {value : Value} {text : String} (written : value.Written text) :
    (text ++ "\n").toList.head? ≠ some 'C' := by
  rw [String.toList_append]
  cases written with
  | @numeral n text t scanned lexeme read =>
    have valid := (Token.layout_of_scan scanned).valid List.mem_cons_self
    rw [lexeme] at valid
    intro head
    have member : 'C' ∈ text.toList ++ "\n".toList := List.mem_of_head? head
    rcases List.mem_append.mp member with inside | behind
    · exact absurd (valid.1 'C' inside) (by decide)
    · exact absurd behind (by decide)
  | closure => simp
  | primitive entry => simp

namespace Interpreter

variable {stack : Stack} {limit : Int} {source : String} {value : Value} {s : String}

theorem stems_of_default (yields : ((default stack limit).eval source).1 = .ok (some value)) :
    ∃ start : Moment, start.Stems Host.primitives value := by
  obtain ⟨e, v, read, outcome⟩ := eval_eq_ok yields
  exact ⟨_, Moment.stems_of_eval .start (Moment.stems_ofTable 0 Host.primitives) outcome⟩

theorem written_of_default (yields : ((default stack limit).eval source).1 = .ok (some value))
    (shown : value.text? = .ok s) : value.Written s := by
  obtain ⟨start, stems⟩ := stems_of_default yields
  cases stems with
  | number n =>
    have numeral := hasNumeral_of_eval yields
    have text : (Value.number n).text? = .ok n.text :=
      Number.text?_of_isBounded (Number.isBounded_of_hasNumeral numeral)
    rw [text] at shown
    cases shown
    obtain ⟨t, scanned, lexeme⟩ := Token.scan_text numeral
    exact .numeral scanned lexeme (Number.read_text numeral)
  | primitive entry =>
    cases shown
    exact .primitive entry
  | closure made kept =>
    cases shown
    exact .closure

end Interpreter

namespace Repl

variable {stack : Stack} {limit : Int} {source : String} {answer : Line}

theorem Prints.ok_iff_head? (prints : Prints ((Interpreter.default stack limit).eval source).1 answer) :
    answer.ok = false ↔ answer.output.toList.head? = some 'C' := by
  generalize outcome : ((Interpreter.default stack limit).eval source).1 = result at prints
  cases prints with
  | nothing => exact iff_of_false Bool.false_ne_true.symm (by decide)
  | value shown =>
    have written := Interpreter.written_of_default outcome shown
    exact iff_of_false Bool.false_ne_true.symm written.head?
  | report named told =>
    obtain ⟨rest, spelled⟩ := Failure.kinds_head _ (Failure.mem_kinds named)
    refine iff_of_true rfl ?_
    simp only [reportOf, String.toList_append, spelled]
    rfl

/-- The answer to the text of an expression is one line: the value as it is written, or the name and the message
of the error. -/
structure OneLine (i : Interpreter) (source : String) (answer : Line) (text : String) : Prop where
  output : answer.output = text ++ "\n"
  unbroken : '\n' ∉ text.toList
  visible : Visible text
  value : answer.ok = true → ∃ value, (i.eval source).1 = .ok (some value) ∧
    value.text? = .ok text ∧ value.Written text
  error : answer.ok = false → ∃ failure kind message, (i.eval source).1 = .error failure ∧
    failure.kind? = .ok kind ∧ kind ∈ Failure.kinds ∧ failure.message? = .ok message ∧
    text = kind ++ ": " ++ message

theorem oneLine_value {value : Value} {s : String} (records : List Log.Record)
    (yields : ((Interpreter.default stack limit).eval source).1 = .ok (some value))
    (shown : value.text? = .ok s) :
    OneLine (Interpreter.default stack limit) source { output := s ++ "\n", records := records } s := by
  obtain ⟨start, stems⟩ := Interpreter.stems_of_default yields
  have visible : Visible s := stems.visible Host.primitives_visible shown
  refine ⟨rfl, visible.not_mem, visible, ?_, nofun⟩
  intro _
  exact ⟨value, yields, shown, Interpreter.written_of_default yields shown⟩

theorem oneLine_report {failure : Failure} {kind message : String} (records : List Log.Record)
    (failed : ((Interpreter.default stack limit).eval source).1 = .error failure)
    (named : failure.kind? = .ok kind) (told : failure.message? = .ok message) :
    OneLine (Interpreter.default stack limit) source { reportOf kind message with records := records }
      (kind ++ ": " ++ message) := by
  have colon : Visible ": " := by decide
  have member := Failure.mem_kinds named
  have text : Visible message :=
    Interpreter.visible_of_eval_error Host.primitives_visible Host.primitives_legible failed named told
  have visible := ((Failure.kinds_visible kind member).append colon).append text
  refine ⟨rfl, visible.not_mem, visible, nofun, ?_⟩
  intro _
  exact ⟨failure, kind, message, failed, named, member, told, rfl⟩

theorem Prints.oneLine (prints : Prints ((Interpreter.default stack limit).eval source).1 answer)
    (records : List Log.Record) (nonblank : ¬∀ c ∈ source.toList, isBlank c = true) :
    ∃ text, OneLine (Interpreter.default stack limit) source { answer with records := records } text := by
  generalize outcome : ((Interpreter.default stack limit).eval source).1 = result at prints
  cases prints with
  | nothing => exact absurd (Interpreter.blank_of_eval outcome) nonblank
  | value shown => exact ⟨_, oneLine_value records outcome shown⟩
  | report named told => exact ⟨_, oneLine_report records outcome named told⟩

theorem report_eq_ok {r : Repl} {records : List Log.Record} {f : Failure}
    (reported : r.report records f = .ok answer) :
    ∃ kind message more, f.kind? = .ok kind ∧ f.message? = .ok message ∧
      answer = { reportOf kind message with records := more } := by
  cases named : f.kind? with
  | error b =>
    rw [report, named] at reported
    cases reported
  | ok kind =>
    cases told : f.message? with
    | error g =>
      simp only [report, named, told] at reported
      cases reported
    | ok message =>
      simp only [report, named, told] at reported
      cases reported
      exact ⟨kind, message, _, rfl, rfl, rfl⟩

theorem prints_of_evalLine {i : Interpreter} {prompt : String}
    (answered : evalLine { interpreter := i, prompt := prompt } source = .ok answer) :
    ∃ printed records, Prints (i.eval source).1 printed ∧ answer = { printed with records := records } := by
  cases read : Expr.read i.stack.reading source with
  | error err =>
    simp only [evalLine, read] at answered
    obtain ⟨kind, message, more, named, told, rfl⟩ := report_eq_ok answered
    refine ⟨_, more, ?_, rfl⟩
    simp only [Interpreter.eval, evaluateSource, read]
    exact .report named told
  | ok expression =>
    cases expression with
    | none =>
      simp only [evalLine, read] at answered
      cases answered
      refine ⟨{}, [], ?_, rfl⟩
      simp only [Interpreter.eval, evaluateSource, read]
      exact .nothing
    | some e =>
      have outcome := i.outcome_of_read read
      simp only [evalLine, read, readRecord, Except.bind] at answered
      cases ran : (evaluate i.stack.levels i.limit i.env e i.world).1 with
      | error failure =>
        rw [ran] at outcome answered
        obtain ⟨kind, message, more, named, told, rfl⟩ := report_eq_ok answered
        rw [outcome]
        exact ⟨_, more, .report named told, rfl⟩
      | ok v =>
        rw [ran] at outcome answered
        cases shown : v.text? with
        | error f =>
          simp only [evalRecord, shown] at answered
          cases answered
        | ok s =>
          simp only [evalRecord, shown] at answered
          cases answered
          rw [outcome]
          exact ⟨{ output := s ++ "\n" }, [], .value shown, rfl⟩

theorem processLine_expression (r : Repl) {line : String} (expression : (strip line).toList.head? ≠ some '/') :
    r.processLine line = r.evalLine (strip line) := by
  have asked : request line = .value (strip line) := by
    simp only [request, expression, ↓reduceIte]
  rw [processLine_eq, asked, Request.answer]

/-- A line that holds no command has an answer. Nothing is printed for a line without text, and one line for any
other, with the value of its expression or with the error. No value is printed like an error, not even that of
another expression below another limit. Only a limit that cannot be written may leave the line without an
answer. -/
theorem processLine_one_line (stack : Stack) (limit : Int) (prompt line : String)
    (expression : (strip line).toList.head? ≠ some '/') :
    let i := Interpreter.default stack limit
    (∃ answer, processLine { interpreter := i, prompt := prompt } line = .ok answer ∧
      (strip line = "" → answer.output = "" ∧ answer.ok = true) ∧
      (strip line ≠ "" → ∃ text, OneLine i (strip line) answer text) ∧
      ∀ (otherStack : Stack) (otherLimit : Int) (otherPrompt otherLine : String) (other : Line),
        (strip otherLine).toList.head? ≠ some '/' →
        processLine { interpreter := Interpreter.default otherStack otherLimit, prompt := otherPrompt }
          otherLine = .ok other →
        answer.ok ≠ other.ok → answer.output ≠ other.output) ∨
    ((Number.int limit).isWritable = false ∧
      processLine { interpreter := i, prompt := prompt } line = .error (.fault .tooManyDigits)) := by
  intro i
  rw [processLine_expression _ expression]
  rcases prints_or_unwritten stack limit (strip line) with ⟨answer, prints⟩ | ⟨escaped, unwritable⟩
  · left
    obtain ⟨records, done⟩ := (evalLine_logged prints prompt false).quiet
    refine ⟨_, done, ?_, ?_, ?_⟩
    · intro empty
      rw [empty] at prints
      cases prints with
      | nothing => exact ⟨rfl, rfl⟩
    · intro nonempty
      exact prints.oneLine records (not_isBlank_of_strip nonempty)
    · intro otherStack otherLimit otherPrompt otherLine other otherExpression otherDone different same
      rw [processLine_expression _ otherExpression] at otherDone
      obtain ⟨printed, records', prints', rfl⟩ := prints_of_evalLine otherDone
      apply different
      change answer.output = printed.output at same
      change answer.ok = printed.ok
      have alike : answer.ok = false ↔ printed.ok = false := by
        rw [prints.ok_iff_head?, prints'.ok_iff_head?, same]
      rw [Bool.eq_iff_iff, ← Bool.not_eq_false, ← Bool.not_eq_false, alike]
  · exact .inr ⟨unwritable, evalLine_of_escaped escaped prompt⟩

/-- The message quotes a control character, and the line breaks around it do not come into the answer. -/
theorem processLine_one_line_quoted :
    let i := Interpreter.default .usual 9
    let line := "\n f(\x01\n)"
    let answer : Line :=
      { output := "CombinatorSyntaxError: unexpected character '\\x01' (at offset 2)\n", ok := false }
    (strip line).toList.head? ≠ some '/' ∧
      processLine { interpreter := i, prompt := "> " } line = .ok answer ∧
      ∃ text, OneLine i (strip line) answer text := by
  intro i line answer
  have expression : (strip line).toList.head? ≠ some '/' := by decide
  have stripped : strip line = "f(\x01\n)" := by decide
  have read : Expr.read i.stack.reading "f(\x01\n)" = .error ⟨.unexpectedChar '\x01', some 2⟩ := rfl
  have printed : processLine { interpreter := i, prompt := "> " } line = .ok answer := by
    simp only [processLine, stripped, evalLine, read]
    rfl
  rcases processLine_one_line .usual 9 "> " line expression with ⟨other, done, -, one, -⟩ | ⟨unwritable, -⟩
  · cases done.symm.trans printed
    exact ⟨expression, printed, one (by decide)⟩
  · exact absurd unwritable (by decide)

end Repl

end LambdaCalc
