import LambdaCalc.Interpreter
import LambdaCalc.Log

namespace LambdaCalc

structure Repl where
  interpreter : Interpreter
  prompt : String
  debug : Bool := false

namespace Repl

def helpText : String :=
  "Interactive read-eval-print loop for PyCombinator.

Each input line holds at most one expression. Results are printed with
repr_value; errors are reported and the loop moves on to the next line.

Commands:
- /help          show this help
- /ast EXPR      print the parsed expression tree without evaluating it
- /exit          leave the REPL"

structure Line where
  output : String := ""
  ok : Bool := true
  exits : Bool := false
  records : List Log.Record := []

def readRecord (r : Repl) (source : String) (e : Option Expr) : Except Breakdown (List Log.Record) :=
  if r.debug then
    let shown := match e with
      | some e => e.construction? r.interpreter.stack
      | none => .ok "None"
    shown.map fun s => [⟨"pycombinator.interpreter", "read " ++ Text.quoted source ++ " -> " ++ s⟩]
  else .ok []

def evalRecord (r : Repl) (e : Expr) (v : Value) : Except Breakdown (List Log.Record) :=
  if r.debug then
    (e.source? r.interpreter.stack).bind fun s => (v.text?.mapError .fault).map fun t =>
      [⟨"pycombinator.interpreter", "eval " ++ s ++ " -> " ++ t⟩]
  else .ok []

/-- Breakdowns are not reported, and neither is an error whose message cannot be written. -/
def report (r : Repl) (records : List Log.Record) (f : Failure) : Except Breakdown Line :=
  f.kind?.bind fun kind => (f.message?.mapError .fault).map fun message =>
    let record : List Log.Record := if r.debug then [⟨"pycombinator.repl", "reported " ++ kind⟩] else []
    { output := kind ++ ": " ++ message ++ "\n", ok := false, records := records ++ record }

def evalLine (r : Repl) (source : String) : Except Breakdown Line :=
  match Expr.read r.interpreter.stack.reading source with
  | .error e => r.report [] (.read e)
  | .ok none => (r.readRecord source none).map fun records => { records := records }
  | .ok (some e) =>
    (r.readRecord source (some e)).bind fun records =>
      let i := r.interpreter
      match (evaluate i.stack.levels i.limit i.env e i.world).1 with
      | .error failure => r.report records (.eval failure.raised)
      | .ok v =>
        (r.evalRecord e v).bind fun more =>
          (v.text?.mapError .fault).map fun s =>
            { output := s ++ "\n", records := records ++ more }

def astLine (r : Repl) (source : String) : Except Breakdown Line :=
  match Expr.read r.interpreter.stack.reading source with
  | .error e => r.report [] (.read e)
  | .ok none => (r.readRecord source none).map fun records => { records := records }
  | .ok (some e) =>
    (r.readRecord source (some e)).bind fun records =>
      match e.tree? r.interpreter.stack 0 with
      | .ok tree => .ok { output := tree ++ "\n", records := records }
      | .error .tooDeep =>
        .ok { output := "<expression too deeply nested to display>\n", records := records }
      | .error b => .error b

def splitCommand (line : String) : String × String :=
  (String.ofList (line.toList.takeWhile (· != ' ')),
    String.ofList ((line.toList.dropWhile (· != ' ')).drop 1))

def processLine (r : Repl) (line : String) : Except Breakdown Line :=
  let line := Text.strip line
  if line.toList.head? = some '/' then
    let (name, rest) := splitCommand line
    if name = "/help" then .ok { output := helpText ++ "\n" }
    else if name = "/ast" then r.astLine rest
    else if name = "/exit" then .ok { exits := true }
    else .ok { output := "Unknown command: " ++ name ++ " (try /help)\n", ok := false }
  else r.evalLine line

/-- A loop over the lines of an input: what was printed before each line was asked for, what was
printed after the last one, and how it ended. -/
structure Session where
  beforeReads : List String
  afterLast : String
  running : Bool
  unread : Nat
  records : List Log.Record

inductive Ending where
  | exhausted
  | interrupted
deriving DecidableEq

inductive Asked where
  | line (text : String)
  | ended (ending : Ending)

structure Turn where
  output : String
  goesOn : Bool
  records : List Log.Record := []

def turn (r : Repl) : Asked → Except Breakdown Turn
  | .line text => (r.processLine text).map fun result =>
    { output := result.output, goesOn := !result.exits, records := result.records }
  | .ended .exhausted | .ended .interrupted => .ok { output := "\n", goesOn := false }

/-- The loop, with the output of the turn before. -/
def sessionFrom (r : Repl) (ending : Ending) (printed : String) : List String → Except Breakdown Session
  | [] => (r.turn (.ended ending)).map fun t => ⟨[printed], t.output, true, 0, t.records⟩
  | line :: rest =>
    (r.turn (.line line)).bind fun t =>
      if t.goesOn then
        (sessionFrom r ending t.output rest).map fun s =>
          { s with beforeReads := printed :: s.beforeReads, records := t.records ++ s.records }
      else .ok ⟨[printed], t.output, false, rest.length, t.records⟩

def session (r : Repl) (lines : List String) (ending : Ending := .exhausted) : Except Breakdown Session :=
  r.sessionFrom ending "" lines

def Session.output (s : Session) (prompt : String) : String :=
  String.join (s.beforeReads.map (· ++ prompt)) ++ s.afterLast

end Repl

end LambdaCalc
