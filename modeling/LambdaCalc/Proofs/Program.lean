import LambdaCalc.Program
import LambdaCalc.Proofs.Repl.Line

namespace LambdaCalc

namespace Log

def IsRefused (level : String) : Prop := level = "BASIC_FORMAT" ∨ level = "_STYLES"

instance (level : String) : Decidable (IsRefused level) := inferInstanceAs (Decidable (_ ∨ _))

def KeepsRecords (level : String) : Prop := level = "DEBUG" ∨ level = "NOTSET"

instance (level : String) : Decidable (KeepsRecords level) := inferInstanceAs (Decidable (_ ∨ _))

theorem mem_of_lookup {α : Type} {table : List (String × α)} {name : String} {entry : α}
    (found : table.lookup name = some entry) : (name, entry) ∈ table := by
  obtain ⟨before, after, rfl, -⟩ := List.lookup_eq_some_iff.mp found
  exact List.mem_append_right before List.mem_cons_self

theorem isDebug_iff (level : String) :
    isDebug ((levels.lookup level).getD defaultThreshold) = true ↔ KeepsRecords level := by
  constructor
  · intro kept
    have low : ∀ entry ∈ levels, isDebug entry.2 = true → entry.1 = "DEBUG" ∨ entry.1 = "NOTSET" := by decide
    cases found : levels.lookup level with
    | none =>
      rw [found] at kept
      cases kept
    | some n =>
      rw [found] at kept
      exact low (level, n) (mem_of_lookup found) kept
  · rintro (rfl | rfl) <;> rfl

theorem threshold_cases (level : String) :
    (IsRefused level ∧ ∃ fault, threshold level = .error fault) ∨
      (¬IsRefused level ∧ ∃ n, threshold level = .ok n ∧ (isDebug n = true ↔ KeepsRecords level)) := by
  cases found : refused.lookup level with
  | some fault =>
    left
    have names : ∀ entry ∈ refused, IsRefused entry.1 := by
      simp only [refused, List.forall_mem_cons, List.not_mem_nil, false_implies, implies_true, and_true]
      exact ⟨.inl rfl, .inr rfl⟩
    refine ⟨names (level, fault) (mem_of_lookup found), fault, ?_⟩
    simp only [threshold, found]
  | none =>
    right
    have absent := List.lookup_eq_none_iff.mp found
    simp only [refused, List.forall_mem_cons, bne_iff_ne] at absent
    refine ⟨?_, _, ?_, isDebug_iff level⟩
    · rintro (basic | styles)
      · exact absent.1 basic
      · exact absent.2.1 styles
    · simp only [threshold, found]

theorem KeepsRecords.not_isRefused {level : String} (kept : KeepsRecords level) : ¬IsRefused level := by
  rcases kept with rfl | rfl
  · decide
  · decide

end Log

namespace CommandLine

theorem isWritable_of_assign {line next : CommandLine} {flag : Flag} {text : String}
    (before : ∀ n ∈ line.limit, (Number.int n).isWritable = true) (assigned : assign line flag text = .ok next) :
    ∀ n ∈ next.limit, (Number.int n).isWritable = true := by
  cases flag with
  | help | command | logLevel =>
    cases assigned
    exact before
  | maxDepth =>
    simp only [assign] at assigned
    split at assigned
    · rename_i limit spelled
      cases assigned
      rintro n ⟨⟩
      exact decide_eq_true (Numeral.width_of_int? spelled)
    · cases assigned

theorem isWritable_of_take {line last : CommandLine} {args : List Arg} {extras more : List String}
    (before : ∀ n ∈ line.limit, (Number.int n).isWritable = true) (taken : take line extras args = .ok (last, more)) :
    ∀ n ∈ last.limit, (Number.int n).isWritable = true := by
  fun_induction take line extras args with
  | case1 line extras =>
    cases taken
    exact before
  | case2 line extras text rest ih | case3 line extras rest ih | case4 line extras text rest ih =>
    exact ih before taken
  | case5 => cases taken
  | case7 => cases taken
  | case6 line extras flag text rest _ ih | case8 line extras flag text rest _ ih
    | case9 line extras flag text rest _ ih =>
    cases assigned : assign line flag _ with
    | error exit =>
      rw [assigned] at taken
      cases taken
    | ok next =>
      rw [assigned] at taken
      exact ih next (isWritable_of_assign before assigned) taken

theorem isWritable_of_parse {argv : List String} {line : CommandLine} (accepted : parse argv = .ok line) :
    ∀ n ∈ line.limit, (Number.int n).isWritable = true := by
  simp only [parse] at accepted
  cases classified : classifyAll argv with
  | error exit =>
    rw [classified] at accepted
    cases accepted
  | ok args =>
    rw [classified] at accepted
    cases taken : take {} [] args with
    | error exit =>
      simp only [Except.bind, taken] at accepted
      cases accepted
    | ok result =>
      obtain ⟨last, extras⟩ := result
      simp only [Except.bind, taken] at accepted
      split at accepted
      · cases accepted
        refine isWritable_of_take (fun n none => ?_) taken
        cases none
      · cases accepted

end CommandLine

theorem Settings.isWritable_limit (vars : Settings) : (Number.int vars.limit).isWritable = true := by
  simp only [limit, int]
  split
  · rename_i n spelled
    obtain ⟨raw, -, numeral⟩ := Option.bind_eq_some_iff.mp spelled
    split
    · exact decide_eq_true (Numeral.width_of_int? numeral)
    · decide
  · decide

namespace Program

variable {stack : Stack} {argv : List String} {vars : Settings} {line : CommandLine} {text : String}

theorem run_of_refused {fault : Fault} (accepted : CommandLine.parse argv = .ok line)
    (refused : Log.threshold (vars.chosenLevel line.logLevel) = .error fault) (input : String) :
    run stack argv vars input = .error (.fault fault) := by
  simp only [run, start, accepted, repl, Settings.setUpLog, refused]
  rfl

theorem repl_of_threshold (stack : Stack) {threshold : Nat}
    (known : Log.threshold (vars.chosenLevel line.logLevel) = .ok threshold) :
    ∃ records, repl stack vars line = .ok (⟨Interpreter.default stack (line.limit.getD vars.limit), vars.prompt,
      Log.isDebug threshold⟩, records) := by
  simp only [repl, Settings.setUpLog, known]
  exact ⟨_, rfl⟩

theorem run_of_command {threshold : Nat} (accepted : CommandLine.parse argv = .ok line)
    (given : line.command = some text)
    (known : Log.threshold (vars.chosenLevel line.logLevel) = .ok threshold) (input : String) :
    ∃ records, run stack argv vars input =
      (Repl.processLine ⟨Interpreter.default stack (line.limit.getD vars.limit), vars.prompt,
        Log.isDebug threshold⟩ text).map fun result =>
          { code := if result.ok then 0 else 1
            stdout := result.output
            records := records ++ result.records } := by
  obtain ⟨records, made⟩ := repl_of_threshold stack known
  refine ⟨records, ?_⟩
  simp only [run, start, accepted, made, given, Except.bind]
  cases Repl.processLine _ text <;> rfl

inductive Finishes (level : String) (unwritten : Prop) (answer : Repl.Line) : Except Breakdown Outcome → Prop where
  | refused {fault : Fault} (name : Log.IsRefused level) :
      Finishes level unwritten answer (.error (.fault fault))
  | lost (kept : Log.KeepsRecords level) (tooDeep : unwritten) :
      Finishes level unwritten answer (.error .tooDeep)
  | answered (records : List Log.Record) (known : ¬Log.IsRefused level)
      (written : ¬(Log.KeepsRecords level ∧ unwritten)) :
      Finishes level unwritten answer
        (.ok { code := if answer.ok then 0 else 1, stdout := answer.output, records := records })

theorem run_finishes {answer : Repl.Line} {unwritten : Prop} {limit : Int} {level : String}
    (accepted : CommandLine.parse argv = .ok line) (given : line.command = some text)
    (limited : line.limit.getD vars.limit = limit) (chosen : vars.chosenLevel line.logLevel = level)
    (logged : ∀ prompt debug, Repl.Logged answer debug unwritten
      (Repl.processLine ⟨Interpreter.default stack limit, prompt, debug⟩ text))
    (input : String) : Finishes level unwritten answer (run stack argv vars input) := by
  subst limited chosen
  rcases Log.threshold_cases (vars.chosenLevel line.logLevel) with
    ⟨refused, fault, failed⟩ | ⟨known, threshold, passed, debug⟩
  · rw [run_of_refused accepted failed input]
    exact .refused refused
  · obtain ⟨before, ran⟩ := run_of_command accepted given passed input
    rw [ran]
    -- The line is answered as it would be at any other level, or its records are lost.
    have outcome := logged vars.prompt (Log.isDebug threshold)
    generalize Repl.processLine _ text = result at outcome ⊢
    cases outcome with
    | kept records written =>
      exact .answered (before ++ records) known fun both => written ⟨debug.mpr both.1, both.2⟩
    | lost kept tooDeep => exact .lost (debug.mp kept) tooDeep

theorem exists_logged (stack : Stack) (vars : Settings) (accepted : CommandLine.parse argv = .ok line)
    (text : String) :
    let i := Interpreter.default stack (line.limit.getD vars.limit)
    ∃ answer : Repl.Line, (answer.ok = false ↔ (Repl.request text).Fails i) ∧
      ∀ prompt debug, Repl.Logged answer debug ((Repl.request text).Unwritten i)
        (Repl.processLine ⟨i, prompt, debug⟩ text) := by
  have writable : (Number.int (line.limit.getD vars.limit)).isWritable = true := by
    cases given : line.limit with
    | none => exact vars.isWritable_limit
    | some n => exact CommandLine.isWritable_of_parse accepted n given
  exact Repl.processLine_logged (Repl.exists_prints stack writable) text

/-- A command has one answer, whatever the level of the log: that of a line where no records are kept. Its
text is what is printed, and the code says whether it reports an error. Only two things stand in its way: the
level is refused, or records are kept and one of them cannot be written. -/
theorem run_command (stack : Stack) (argv : List String) (vars : Settings) (input : String) (line : CommandLine)
    (text : String) (accepted : CommandLine.parse argv = .ok line) (given : line.command = some text) :
    let level := vars.chosenLevel line.logLevel
    let i := Interpreter.default stack (line.limit.getD vars.limit)
    let request := Repl.request text
    ∃ answer : Repl.Line,
      Repl.processLine { interpreter := i, prompt := vars.prompt } text = .ok answer ∧
      (answer.ok = false ↔ request.Fails i) ∧
      (¬Log.IsRefused level → ¬(Log.KeepsRecords level ∧ request.Unwritten i) →
        ∃ records, run stack argv vars input =
          .ok { code := if answer.ok then 0 else 1, stdout := answer.output, records := records }) ∧
      ((∃ fault, run stack argv vars input = .error (.fault fault)) ↔ Log.IsRefused level) ∧
      (run stack argv vars input = .error .tooDeep ↔ Log.KeepsRecords level ∧ request.Unwritten i) := by
  intro level i request
  obtain ⟨answer, reports, logged⟩ := exists_logged stack vars accepted text
  have fails : answer.ok = false ↔ request.Fails i := reports
  have finishes : Finishes level (request.Unwritten i) answer (run stack argv vars input) :=
    run_finishes accepted given rfl rfl logged input
  -- The loop that keeps no records differs from the answer in its records only.
  obtain ⟨records, quiet⟩ := (logged vars.prompt false).quiet
  refine ⟨{ answer with records := records }, quiet, fails, ?_⟩
  clear_value level request
  generalize run stack argv vars input = ending at finishes ⊢
  cases finishes with
  | refused name =>
    refine ⟨fun known => absurd name known, iff_of_true ⟨_, rfl⟩ name, iff_of_false ?_ ?_⟩
    · intro other
      cases other
    · exact fun both => both.1.not_isRefused name
  | lost kept tooDeep =>
    refine ⟨?_, iff_of_false ?_ kept.not_isRefused, iff_of_true rfl ⟨kept, tooDeep⟩⟩
    · exact fun _ written => (written ⟨kept, tooDeep⟩).elim
    · rintro ⟨fault, other⟩
      cases other
  | answered records known written =>
    refine ⟨fun _ _ => ⟨records, rfl⟩, iff_of_false ?_ known, iff_of_false ?_ written⟩
    · rintro ⟨fault, other⟩
      cases other
    · intro other
      cases other

/-- An error is reported at the level that keeps records, on a command line with attached arguments. -/
theorem run_command_debug :
    let argv := ["--max-depth", "3", "-cadd(1, x)", "--log-level=Debug"]
    CommandLine.parse argv = .ok { command := some "add(1, x)", limit := some 3, logLevel := some "Debug" } ∧
      ∃ outcome, run .usual argv [] "" = .ok outcome ∧ outcome.code = 1 ∧
        outcome.stdout = "CombinatorUnboundName: unbound name 'x'\n" := by
  intro argv
  have accepted : CommandLine.parse argv =
    .ok { command := some "add(1, x)", limit := some 3, logLevel := some "Debug" } := rfl
  have read : Expr.read Stack.usual.reading "add(1, x)" =
    .ok (some (.call (.name "add") [.literal (.int 1), .name "x"])) := rfl
  have line : Repl.processLine { interpreter := Interpreter.default .usual 3, prompt := "> " } "add(1, x)" =
    .ok { output := "CombinatorUnboundName: unbound name 'x'\n", ok := false } := rfl
  have written : ¬(Repl.request "add(1, x)").Unwritten (Interpreter.default .usual 3) := by
    refine (@Repl.unwritten_value_iff _ _ (Interpreter.default .usual 3) read).not.mpr ?_
    rintro (deep | ⟨-, deep⟩) <;> cases deep
  obtain ⟨answer, answered, -, finishes, -⟩ := run_command .usual argv [] "" _ "add(1, x)" accepted rfl
  obtain ⟨records, ran⟩ := finishes (by decide) fun both => written both.2
  cases answered.symm.trans line
  exact ⟨accepted, _, ran, rfl, rfl⟩

end Program

namespace Expr

/-- The expression `f()()…()` with `n` calls. -/
def called : Nat → Expr
  | 0 => name "f"
  | n + 1 => call (called n) []

theorem isLambda_called (n : Nat) : (called n).isLambda = false := by
  cases n <;> rfl

theorem lt_frames_called (d : Descent) (n : Nat) : n * d.operator < (called n).frames d := by
  induction n with
  | zero => simp [called, frames]
  | succ n ih =>
    rw [called, frames, Nat.succ_mul]
    omega

theorem nesting_called (room : Room) (n : Nat) : (called n).nesting room = 1 := by
  induction n with
  | zero => rfl
  | succ n ih => rw [called, nesting, isLambda_called, if_neg Bool.false_ne_true, ih, nestingAll, Nat.max_zero]

theorem wellFormed_called (n : Nat) : (called n).wellFormed = true := by
  induction n with
  | zero => rfl
  | succ n ih => rw [called, wellFormed, ih, wellFormedAll, Bool.and_true]

theorem read_called {room : Room} (ample : 0 < room.frames) (n : Nat) :
    Expr.read room (called n).source = .ok (some (called n)) :=
  read_source_of_nesting (wellFormed_called n) (by rwa [nesting_called])

theorem source_called (n : Nat) :
    ∃ calls, (called n).source.toList = 'f' :: calls ∧ ∀ c ∈ calls, c = '(' ∨ c = ')' := by
  induction n with
  | zero => exact ⟨[], rfl, by simp⟩
  | succ n ih =>
    obtain ⟨calls, spelled, delimiters⟩ := ih
    have longer : (called (n + 1)).source = (called n).source ++ "()" := by
      rw [called, source, isLambda_called, if_neg Bool.false_ne_true]
      rfl
    refine ⟨calls ++ ['(', ')'], ?_, ?_⟩
    · rw [longer, String.toList_append, spelled]
      rfl
    · intro c member
      rcases List.mem_append.mp member with inside | last
      · exact delimiters c inside
      · simpa using last

end Expr

theorem Repl.request_called (n : Nat) : request (Expr.called n).source = .value (Expr.called n).source := by
  obtain ⟨calls, spelled, delimiters⟩ := Expr.source_called n
  have stripped : Text.strip (Expr.called n).source = (Expr.called n).source := by
    have kept : ∀ c ∈ (Expr.called n).source.toList, Text.isBlank c = false := by
      rw [spelled]
      intro c member
      rcases List.mem_cons.mp member with rfl | later
      · rfl
      · rcases delimiters c later with rfl | rfl <;> rfl
    rw [Text.strip, Text.trim_eq_self kept, String.ofList_toList]
  have plain : ¬(Expr.called n).source.toList.head? = some '/' := by
    rw [spelled, List.head?_cons]
    decide
  simp only [request, stripped, plain, ↓reduceIte]

theorem Repl.unwritten_called {stack : Stack} {n : Nat} (ample : 0 < stack.reading.frames)
    (deep : stack.construction.frames ≤ n * stack.construction.operator) (limit : Int) :
    (Request.value (Expr.called n).source).Unwritten (Interpreter.default stack limit) := by
  have exceeds : stack.construction.frames < (Expr.called n).frames stack.construction :=
    Nat.lt_of_le_of_lt deep (Expr.lt_frames_called stack.construction n)
  have unfit : (Expr.called n).fits stack.construction = false :=
    decide_eq_false (Nat.not_le_of_lt exceeds)
  exact ⟨_, Expr.read_called ample n, .inl unfit⟩

namespace CommandLine

theorem classifyAll_plain {text : String} (first : text.toList.head? ≠ some '-') (rest : List String) :
    classifyAll (text :: rest) = (classifyAll rest).map (.plain text :: ·) := by
  have other : text ≠ "--" := by
    rintro rfl
    exact first rfl
  rw [classifyAll, if_neg other, classify, if_pos (.inl first)]
  rfl

theorem classifyAll_command {text : String} (first : text.toList.head? ≠ some '-') (rest : List String) :
    classifyAll ("-c" :: text :: rest) =
      ((classifyAll rest).map (.plain text :: ·)).map (.flag .command .none :: ·) := by
  rw [← classifyAll_plain first]
  rfl

end CommandLine

namespace Program

theorem run_called {stack : Stack} {n : Nat} (ample : 0 < stack.reading.frames)
    (deep : stack.construction.frames ≤ n * stack.construction.operator) :
    run stack ["-c", (Expr.called n).source, "--log-level", "debug"] [] "" = .error .tooDeep ∧
      ∃ outcome, run stack ["-c", (Expr.called n).source] [] "" = .ok outcome := by
  have first : (Expr.called n).source.toList.head? ≠ some '-' := by
    obtain ⟨calls, spelled, -⟩ := Expr.source_called n
    rw [spelled, List.head?_cons]
    decide
  constructor
  · have accepted : CommandLine.parse ["-c", (Expr.called n).source, "--log-level", "debug"] =
        .ok { command := some (Expr.called n).source, logLevel := some "debug" } := by
      rw [CommandLine.parse, CommandLine.classifyAll_command first]
      rfl
    have level : Settings.chosenLevel [] (some "debug") = "DEBUG" := rfl
    obtain ⟨answer, -, logged⟩ := exists_logged stack [] accepted (Expr.called n).source
    rw [Repl.request_called] at logged
    have finishes := run_finishes accepted rfl rfl level logged ""
    generalize run _ _ _ _ = ending at finishes ⊢
    cases finishes with
    | refused name => exact absurd name (by decide)
    | lost => rfl
    | answered records known written => exact absurd ⟨.inl rfl, Repl.unwritten_called ample deep _⟩ written
  · have accepted : CommandLine.parse ["-c", (Expr.called n).source] =
        .ok { command := some (Expr.called n).source } := by
      rw [CommandLine.parse, CommandLine.classifyAll_command first]
      rfl
    have level : Settings.chosenLevel [] none = "WARNING" := rfl
    obtain ⟨answer, -, logged⟩ := exists_logged stack [] accepted (Expr.called n).source
    have finishes := run_finishes accepted rfl rfl level logged ""
    generalize run _ _ _ _ = ending at finishes ⊢
    cases finishes with
    | refused name => exact absurd name (by decide)
    | lost kept => exact absurd kept (by decide)
    | answered records known written => exact ⟨_, rfl⟩

/-- Two commands that end without an answer. The first level is no level. At the second one the expression
is too deep for the record of reading it, though it is answered where no records are kept. -/
theorem run_breaks_down :
    run .usual ["-c", "1", "--log-level", "basic_format"] [] "" =
      .error (.fault (.raised .value "Unknown level: '%(levelname)s:%(name)s:%(message)s'")) ∧
    run .usual ["-c", (Expr.called 1500).source, "--log-level", "debug"] [] "" = .error .tooDeep ∧
    ∃ outcome, run .usual ["-c", (Expr.called 1500).source] [] "" = .ok outcome :=
  ⟨rfl, run_called (by decide) (by decide)⟩

end Program

end LambdaCalc
