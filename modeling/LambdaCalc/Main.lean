import LambdaCalc.Program

namespace LambdaCalc

def settingNames : List String :=
  ["PYCOMBINATOR_MAX_DEPTH", "PYCOMBINATOR_PROMPT", "PYCOMBINATOR_LOG_LEVEL"]

def printRecords (records : List Log.Record) : IO Unit :=
  records.forM fun record =>
    IO.eprintln (record.logger ++ " - " ++ Log.Record.level ++ " - " ++ record.message)

def breakDown (b : Breakdown) : IO UInt32 := do
  IO.eprintln b.shown
  return 1

partial def loop (repl : Repl) : IO UInt32 := do
  let out ← IO.getStdout
  out.putStr repl.prompt
  out.flush
  let line ← (← IO.getStdin).getLine
  match repl.turn (if line.isEmpty then .ended .exhausted else .line line) with
  | .error b => breakDown b
  | .ok turn =>
    printRecords turn.records
    out.putStr turn.output
    if turn.goesOn then loop repl else return 0

end LambdaCalc

def main (args : List String) : IO UInt32 := do
  let vars ← LambdaCalc.settingNames.filterMapM fun name => do
    return (← IO.getEnv name).map fun value => (name, value)
  match LambdaCalc.Program.start .usual args vars with
  | .error b => LambdaCalc.breakDown b
  | .ok (.finished outcome) =>
    LambdaCalc.printRecords outcome.records
    IO.print outcome.stdout
    IO.eprint (outcome.stderr.getD "")
    return outcome.code.toUInt32
  | .ok (.loop repl records) =>
    LambdaCalc.printRecords records
    LambdaCalc.loop repl
