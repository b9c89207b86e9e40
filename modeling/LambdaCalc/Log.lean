import LambdaCalc.Fault
import LambdaCalc.Text.Upper

namespace LambdaCalc.Log

structure Record where
  logger : String
  message : String
deriving DecidableEq

def Record.level : String := "DEBUG"

def levels : List (String × Nat) :=
  [("CRITICAL", 50), ("FATAL", 50), ("ERROR", 40), ("WARNING", 30), ("WARN", 30), ("INFO", 20),
   ("DEBUG", 10), ("NOTSET", 0)]

def defaultThreshold : Nat := 30

def recordFormat : String := "%(levelname)s:%(name)s:%(message)s"

/-- Two names stand for settings that are not levels, and are refused. -/
def refused : List (String × Fault) :=
  [("BASIC_FORMAT", .raised .value ("Unknown level: " ++ Text.quoted recordFormat)),
   ("_STYLES", .raised .type ("Level not an integer or a valid string: " ++
     "\x7b'%': (<class 'logging.PercentStyle'>, " ++ Text.quoted recordFormat ++ "), " ++
     "'\x7b': (<class 'logging.StrFormatStyle'>, '\x7blevelname\x7d:\x7bname\x7d:\x7bmessage\x7d'), " ++
     "'$': (<class 'logging.StringTemplateStyle'>, " ++
     "'$\x7blevelname\x7d:$\x7bname\x7d:$\x7bmessage\x7d')\x7d"))]

def threshold (level : String) : Except Fault Nat :=
  match refused.lookup level with
  | some fault => .error fault
  | none => .ok ((levels.lookup level).getD defaultThreshold)

def isDebug (threshold : Nat) : Bool := threshold ≤ 10

end LambdaCalc.Log
