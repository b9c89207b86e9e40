import LambdaCalc.Proofs.Repl.Line

namespace LambdaCalc.Repl

def Leaves (line : String) : Prop := (splitCommand (Text.strip line)).1 = "/exit"

instance (line : String) : Decidable (Leaves line) := inferInstanceAs (Decidable (_ = _))

theorem head?_of_splitCommand {text : String} {c : Char} {cs : List Char}
    (cut : (splitCommand text).1 = String.ofList (c :: cs)) : text.toList.head? = some c := by
  have taken : text.toList.takeWhile (· != ' ') = c :: cs := String.ofList_injective cut
  cases spelled : text.toList with
  | nil =>
    rw [spelled] at taken
    cases taken
  | cons d ds =>
    rw [spelled, List.takeWhile_cons] at taken
    split at taken
    · rw [(List.cons.inj taken).1]
      rfl
    · cases taken

theorem request_of_leaves {line : String} (leaves : Leaves line) : request line = .leave := by
  have head : (Text.strip line).toList.head? = some '/' := head?_of_splitCommand leaves
  have cut : (splitCommand (Text.strip line)).1 = "/exit" := leaves
  simp only [request, head, cut, ↓reduceIte]
  rfl

theorem leaves_of_request {line : String} (asked : request line = .leave) : Leaves line := by
  simp only [request] at asked
  split at asked
  · split at asked
    · cases asked
    · split at asked
      · cases asked
      · split at asked
        · rename_i cut
          exact cut
        · cases asked
  · cases asked

def Stays (result : Except Breakdown Line) : Prop := ∀ line, result = .ok line → line.exits = false

theorem Stays.ok {line : Line} (stays : line.exits = false) : Stays (.ok line) := by
  intro other same
  cases same
  exact stays

theorem Stays.error (b : Breakdown) : Stays (.error b) := by
  intro line other
  cases other

theorem Stays.bind {α : Type} {result : Except Breakdown α} {next : α → Except Breakdown Line}
    (rest : ∀ a, Stays (next a)) : Stays (result.bind next) := by
  cases result with
  | ok a => exact rest a
  | error b => exact .error b

theorem Stays.map {α : Type} {result : Except Breakdown α} {next : α → Line}
    (rest : ∀ a, (next a).exits = false) : Stays (result.map next) := by
  cases result with
  | ok a => exact .ok (rest a)
  | error b => exact .error b

theorem report_stays (r : Repl) (records : List Log.Record) (f : Failure) : Stays (r.report records f) := by
  exact .bind fun _ => .map fun _ => rfl

theorem evalLine_stays (r : Repl) (source : String) : Stays (r.evalLine source) := by
  unfold evalLine
  split
  · exact r.report_stays _ _
  · exact .map fun _ => rfl
  · apply Stays.bind
    intro records
    dsimp only
    split
    · exact r.report_stays _ _
    · exact .bind fun _ => .map fun _ => rfl

theorem astLine_stays (r : Repl) (source : String) : Stays (r.astLine source) := by
  unfold astLine
  split
  · exact r.report_stays _ _
  · exact .map fun _ => rfl
  · apply Stays.bind
    intro records
    split
    · exact .ok rfl
    · exact .ok rfl
    · exact .error _

theorem answer_stays (r : Repl) {asked : Request} (other : asked ≠ .leave) : Stays (asked.answer r) := by
  cases asked with
  | help => exact .ok rfl
  | tree source => exact r.astLine_stays source
  | leave => exact absurd rfl other
  | unknown name => exact .ok rfl
  | value source => exact r.evalLine_stays source

theorem exits_iff_leaves {r : Repl} {line : String} {answer : Line} (answered : r.processLine line = .ok answer) :
    answer.exits = true ↔ Leaves line := by
  rw [processLine_eq] at answered
  constructor
  · intro exits
    by_contra stays
    have other : request line ≠ .leave := fun asked => stays (leaves_of_request asked)
    have goesOn := r.answer_stays other answer answered
    rw [goesOn] at exits
    cases exits
  · intro leaves
    rw [request_of_leaves leaves] at answered
    cases answered
    rfl

namespace Session

def reads (s : Session) : Nat := s.beforeReads.length

def printed (s : Session) : String := String.join s.beforeReads ++ s.afterLast

end Session

def GoesOn (r : Repl) (answer : String → Line) (line : String) : Prop :=
  ¬Leaves line ∧ r.processLine line = .ok (answer line)

/-- How a session goes after `printed`: it is left, or it comes to the end of its lines, or one of them breaks
down. -/
inductive Goes (r : Repl) (answer : String → Line) (printed : String) :
    List String → Except Breakdown Session → Prop where
  | left {before rest : List String} {last : String} {records : List Log.Record}
      (stay : ∀ line ∈ before, r.GoesOn answer line) (leaves : Leaves last)
      (answered : r.processLine last = .ok (answer last)) :
      Goes r answer printed (before ++ last :: rest) (.ok ⟨printed :: before.map fun line => (answer line).output,
        (answer last).output, false, rest.length, records⟩)
  | ended {lines : List String} {records : List Log.Record} (stay : ∀ line ∈ lines, r.GoesOn answer line) :
      Goes r answer printed lines
        (.ok ⟨printed :: lines.map fun line => (answer line).output, "\n", true, 0, records⟩)
  | broken {before rest : List String} {line : String} {b : Breakdown}
      (stay : ∀ earlier ∈ before, r.GoesOn answer earlier) (fails : r.processLine line = .error b) :
      Goes r answer printed (before ++ line :: rest) (.error b)

theorem Goes.cons {r : Repl} {answer : String → Line} {line : String} {lines : List String}
    {result : Except Breakdown Session} (goesOn : r.GoesOn answer line)
    (goes : Goes r answer (answer line).output lines result) (printed : String) (records : List Log.Record) :
    Goes r answer printed (line :: lines) (result.map fun s =>
      { s with beforeReads := printed :: s.beforeReads, records := records ++ s.records }) := by
  cases goes with
  | @left before rest last _ stay leaves answered =>
    have all : ∀ other ∈ line :: before, r.GoesOn answer other := List.forall_mem_cons.mpr ⟨goesOn, stay⟩
    exact .left all leaves answered
  | ended stay => exact .ended (List.forall_mem_cons.mpr ⟨goesOn, stay⟩)
  | @broken before rest last _ stay fails =>
    have all : ∀ other ∈ line :: before, r.GoesOn answer other := List.forall_mem_cons.mpr ⟨goesOn, stay⟩
    exact .broken all fails

theorem sessionFrom_goes {r : Repl} {answer : String → Line}
    (known : ∀ line a, r.processLine line = .ok a → answer line = a) (ending : Ending) (printed : String)
    (lines : List String) : Goes r answer printed lines (r.sessionFrom ending printed lines) := by
  have none : ∀ line ∈ ([] : List String), r.GoesOn answer line := by simp
  induction lines generalizing printed with
  | nil =>
    cases ending with
    | exhausted => exact .ended none
    | interrupted => exact .ended none
  | cons line rest ih =>
    cases answered : r.processLine line with
    | error b =>
      simp only [sessionFrom, turn, answered]
      exact .broken none answered
    | ok a =>
      obtain rfl := known line a answered
      simp only [sessionFrom, turn, answered, Except.map, Except.bind]
      by_cases leaves : Leaves line
      · have exits := (exits_iff_leaves answered).mpr leaves
        simp only [exits, Bool.not_true, Bool.false_eq_true, ↓reduceIte]
        exact .left none leaves answered
      · have stays := Bool.eq_false_iff.mpr fun exits => leaves ((exits_iff_leaves answered).mp exits)
        simp only [stays, Bool.not_false, ↓reduceIte]
        exact (ih (answer line).output).cons ⟨leaves, answered⟩ printed _

/-- A session prints what its lines print, each taken by itself. The first line that leaves the loop is the last
one that is read, and nothing is printed behind its answer. Without such a line all lines are read, and a line
more is asked for before the input ends, one way or the other, with a line break. Every line has an answer if the
limit can be written; otherwise the session may also break down, with the first line that does. -/
theorem session_concat (stack : Stack) (limit : Int) (prompt : String) (lines : List String) (ending : Ending) :
    let loop : Repl := { interpreter := Interpreter.default stack limit, prompt := prompt }
    ∃ answer : String → Line,
      ((Number.int limit).isWritable = true → ∀ line, loop.processLine line = .ok (answer line)) ∧
      ((∃ before last rest s, lines = before ++ last :: rest ∧ (∀ line ∈ before, loop.GoesOn answer line) ∧
          Leaves last ∧ loop.processLine last = .ok (answer last) ∧ loop.session lines ending = .ok s ∧
          s.beforeReads = "" :: before.map (fun line => (answer line).output) ∧
          s.printed = String.join ((before ++ [last]).map fun line => (answer line).output) ∧
          s.reads = before.length + 1 ∧ s.unread = rest.length ∧ s.running = false) ∨
        (∃ s, (∀ line ∈ lines, loop.GoesOn answer line) ∧ loop.session lines ending = .ok s ∧
          s.beforeReads = "" :: lines.map (fun line => (answer line).output) ∧
          s.printed = String.join (lines.map fun line => (answer line).output) ++ "\n" ∧
          s.reads = lines.length + 1 ∧ s.unread = 0 ∧ s.running = true) ∨
        ((Number.int limit).isWritable = false ∧ ∃ before line rest, lines = before ++ line :: rest ∧
          (∀ earlier ∈ before, loop.GoesOn answer earlier) ∧
          loop.processLine line = .error (.fault .tooManyDigits) ∧
          loop.session lines ending = .error (.fault .tooManyDigits))) := by
  intro loop
  let answer (line : String) : Line := (loop.processLine line).toOption.getD {}
  have known : ∀ line a, loop.processLine line = .ok a → answer line = a := by
    intro line a answered
    simp only [answer, answered]
    rfl
  refine ⟨answer, ?_, ?_⟩
  · intro writable line
    rcases processLine_or_unwritten stack limit prompt line with ⟨a, answered⟩ | ⟨-, unwritable⟩
    · rw [known line a answered]
      exact answered
    · exact absurd (writable.symm.trans unwritable) Bool.false_ne_true.symm
  · have goes : Goes loop answer "" lines (loop.session lines ending) := sessionFrom_goes known ending "" lines
    clear_value answer
    generalize loop.session lines ending = result at goes ⊢
    cases goes with
    | @left before rest last records stay leaves answered =>
      left
      refine ⟨before, last, rest, _, rfl, stay, leaves, answered, rfl, rfl, ?_, ?_, rfl, rfl⟩
      · simp [Session.printed, String.join_append, String.join_cons]
      · simp [Session.reads]
    | ended stay =>
      right
      left
      refine ⟨_, stay, rfl, rfl, ?_, ?_, rfl, rfl⟩
      · simp [Session.printed, String.join_cons]
      · simp [Session.reads]
    | @broken before rest line b stay fails =>
      right
      right
      rcases processLine_or_unwritten stack limit prompt line with ⟨a, answered⟩ | ⟨broken, unwritable⟩
      · cases answered.symm.trans fails
      · cases broken.symm.trans fails
        exact ⟨unwritable, before, line, rest, rfl, stay, fails, rfl⟩

/-- The command may be followed by other words, and is not heeded inside a line. -/
theorem session_concat_left :
    let loop : Repl := { interpreter := Interpreter.default .usual 9, prompt := "> " }
    let lines := ["add(1, x)", "1 /exit", " /exit now", "2"]
    let s : Session :=
      { beforeReads := ["", "CombinatorUnboundName: unbound name 'x'\n",
          "CombinatorSyntaxError: unexpected character '/' (at offset 2)\n"]
        afterLast := "", running := false, unread := 1, records := [] }
    loop.session lines .interrupted = .ok s ∧
      ∃ (answer : String → Line) (before : List String) (last : String) (rest : List String),
        (∀ line, loop.processLine line = .ok (answer line)) ∧ lines = before ++ last :: rest ∧ rest.length = 1 ∧
        s.printed = String.join ((before ++ [last]).map fun line => (answer line).output) := by
  intro loop lines s
  have ran : loop.session lines .interrupted = .ok s := rfl
  obtain ⟨answer, answered, left | ended | broken⟩ := session_concat .usual 9 "> " lines .interrupted
  · obtain ⟨before, last, rest, other, split, -, -, -, gone, -, printed, -, unread, -⟩ := left
    cases gone.symm.trans ran
    exact ⟨ran, answer, before, last, rest, answered (by decide), split, unread.symm, printed⟩
  · obtain ⟨other, -, gone, -, -, -, -, running⟩ := ended
    cases gone.symm.trans ran
    exact absurd running Bool.false_ne_true
  · exact absurd broken.1 (by decide)

end LambdaCalc.Repl
