import LambdaCalc.CommandLine
import LambdaCalc.Repl
import LambdaCalc.Settings

namespace LambdaCalc.Program

structure Outcome where
  code : Nat
  stdout : String := ""
  stderr : Option String := none
  records : List Log.Record := []

/-- The lines of an input; a final line break ends the last line. -/
def inputLines (input : List Char) : List (List Char) :=
  match input with
  | [] => []
  | '\n' :: rest => [] :: inputLines rest
  | c :: rest =>
    match inputLines rest with
    | line :: lines => (c :: line) :: lines
    | [] => [[c]]

def repl (stack : Stack) (vars : Settings) (line : CommandLine) : Except Breakdown (Repl × List Log.Record) :=
  ((vars.setUpLog line.logLevel).mapError .fault).map fun (threshold, records) =>
    ({ interpreter := Interpreter.default stack (line.limit.getD vars.limit)
       prompt := vars.prompt
       debug := Log.isDebug threshold }, records)

inductive Start where
  | finished (outcome : Outcome)
  | loop (repl : Repl) (records : List Log.Record)

def start (stack : Stack) (argv : List String) (vars : Settings) : Except Breakdown Start :=
  match CommandLine.parse argv with
  | .error exit =>
    .ok (.finished { code := exit.code, stdout := exit.stdout, stderr := some exit.stderr })
  | .ok line =>
    (repl stack vars line).bind fun (r, records) =>
      match line.command with
      | some text => (r.processLine text).map fun result =>
        .finished { code := if result.ok then 0 else 1
                    stdout := result.output
                    records := records ++ result.records }
      | none => .ok (.loop r records)

def run (stack : Stack) (argv : List String) (vars : Settings) (input : String) :
    Except Breakdown Outcome :=
  (start stack argv vars).bind fun
    | .finished outcome => .ok outcome
    | .loop r records =>
      (r.session ((inputLines input.toList).map String.ofList)).map fun s =>
        { code := 0, stdout := s.output r.prompt, records := records ++ s.records }

end LambdaCalc.Program
