import LambdaCalc.Log
import LambdaCalc.Numeral

namespace LambdaCalc

abbrev Settings := List (String × String)

namespace Settings

/-- A positive integer, or the default. -/
def int (vars : Settings) (name : String) (default : Int) : Int :=
  match (vars.lookup name).bind fun raw => Numeral.int? (Text.strip raw).toList with
  | some n => if 0 < n then n else default
  | none => default

def text (vars : Settings) (name : String) (default : String) : String :=
  match vars.lookup name with
  | some raw => if raw.isEmpty then default else raw
  | none => default

def defaultLimit : Int := 200

def limit (vars : Settings) : Int := vars.int "PYCOMBINATOR_MAX_DEPTH" defaultLimit

def prompt (vars : Settings) : String := vars.text "PYCOMBINATOR_PROMPT" "> "

def logLevel (vars : Settings) : String :=
  Text.upper (vars.text "PYCOMBINATOR_LOG_LEVEL" "WARNING")

def chosenLevel (vars : Settings) (asked : Option String) : String :=
  match asked with
  | some level => if level.isEmpty then Text.upper vars.logLevel else Text.upper level
  | none => Text.upper vars.logLevel

def setUpLog (vars : Settings) (asked : Option String) : Except Fault (Nat × List Log.Record) :=
  let level := vars.chosenLevel asked
  (Log.threshold level).map fun threshold =>
    (threshold,
      if Log.isDebug threshold then
        [⟨"pycombinator.config", "Logging initialized at " ++ level ++ " level"⟩]
      else [])

end Settings

end LambdaCalc
