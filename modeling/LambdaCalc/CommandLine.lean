import LambdaCalc.Numeral
import LambdaCalc.Text.Quoted

namespace LambdaCalc

structure CommandLine where
  command : Option String := none
  limit : Option Int := none
  logLevel : Option String := none
deriving DecidableEq

namespace CommandLine

inductive Flag where
  | help
  | command
  | maxDepth
  | logLevel
deriving DecidableEq

def spellings : List (String × Flag) :=
  [("-h", .help), ("--help", .help), ("-c", .command), ("--command", .command),
   ("--max-depth", .maxDepth), ("--log-level", .logLevel)]

def Flag.name : Flag → String
  | help => "-h/--help"
  | command => "-c/--command"
  | maxDepth => "--max-depth"
  | logLevel => "--log-level"

inductive Exit where
  | help
  | wrong (message : String)
deriving DecidableEq

def usage : String :=
  "usage: pycombinator [-h] [-c COMMAND] [--max-depth MAX_DEPTH]
                    [--log-level LOG_LEVEL]
"

def helpText : String :=
  usage ++ "
Read-eval-print loop for PyCombinator expressions.

options:
  -h, --help            show this help message and exit
  -c COMMAND, --command COMMAND
                        evaluate one expression, print it and exit
  --max-depth MAX_DEPTH
                        maximum evaluation depth
  --log-level LOG_LEVEL
                        logging level (default: PYCOMBINATOR_LOG_LEVEL or
                        WARNING)
"

namespace Exit

def code : Exit → Nat
  | help => 0
  | wrong _ => 2

def stdout : Exit → String
  | help => helpText
  | wrong _ => ""

def stderr : Exit → String
  | help => ""
  | wrong message => usage ++ "pycombinator: error: " ++ message ++ "\n"

end Exit

def complaint (flag : Flag) (message : String) : Exit :=
  .wrong ("argument " ++ flag.name ++ ": " ++ message)

def ignoredArgument (flag : Flag) (text : List Char) : Exit :=
  complaint flag ("ignored explicit argument " ++ Text.quoted (String.ofList text))

inductive Attached where
  | none
  | afterSign (text : List Char)
  | atOnce (text : List Char)
deriving DecidableEq

inductive Arg where
  | plain (text : String)
  /-- The mark `--`, after which everything is plain. -/
  | mark
  | unknown (text : String)
  | flag (flag : Flag) (attached : Attached)
deriving DecidableEq

def dropFinalBreak (cs : List Char) : List Char :=
  if cs.getLast? = some '\n' then cs.dropLast else cs

def isNegativeNumber (cs : List Char) : Bool :=
  match cs with
  | '-' :: rest =>
    let body := dropFinalBreak rest
    let fraction := (body.dropWhile Text.isDecimalDigit).drop 1
    (!body.isEmpty && body.all Text.isDecimalDigit) ||
      ((body.dropWhile Text.isDecimalDigit).head? == some '.' && !fraction.isEmpty &&
        fraction.all Text.isDecimalDigit)
  | _ => false

def splitAtSign (cs : List Char) : List Char × Attached :=
  match cs.dropWhile (· != '=') with
  | [] => (cs, .none)
  | _ :: rest => (cs.takeWhile (· != '='), .afterSign rest)

def isLong (spelling : String) : Bool := spelling.toList.take 2 == ['-', '-']

/-- A text that starts with a minus sign and is no spelling of a flag as it stands. -/
def classifyOther (text : String) : Except Exit Arg :=
  let cs := text.toList
  let (front, attached) := splitAtSign cs
  let short := String.ofList (cs.take 2)
  let candidates := spellings.filter fun s => front.isPrefixOf s.1.toList
  match spellings.lookup (String.ofList front), attached with
  | some flag, .afterSign rest => .ok (.flag flag (.afterSign rest))
  | _, _ =>
    match isLong text, candidates, spellings.lookup short with
    | true, [(_, flag)], _ => .ok (.flag flag attached)
    | true, _ :: _ :: _, _ =>
      .error (.wrong ("ambiguous option: " ++ text ++ " could match " ++
        ", ".intercalate (candidates.map (·.1))))
    | false, _, some flag => .ok (.flag flag (.atOnce (cs.drop 2)))
    | _, _, _ =>
      .ok (if isNegativeNumber cs || cs.contains ' ' then .plain text else .unknown text)

def classify (text : String) : Except Exit Arg :=
  if text.toList.head? ≠ some '-' ∨ text = "-" then .ok (.plain text)
  else
    match spellings.lookup text with
    | some flag => .ok (.flag flag .none)
    | none => classifyOther text

def classifyAll : List String → Except Exit (List Arg)
  | [] => .ok []
  | text :: rest =>
    if text = "--" then .ok (.mark :: rest.map .plain)
    else (classify text).bind fun arg => (classifyAll rest).map (arg :: ·)

def assign (line : CommandLine) (flag : Flag) (text : String) : Except Exit CommandLine :=
  match flag with
  | .help => .ok line
  | .command => .ok { line with command := some text }
  | .logLevel => .ok { line with logLevel := some text }
  | .maxDepth =>
    match Numeral.int? text.toList with
    | some n => .ok { line with limit := some n }
    | none => .error (complaint .maxDepth ("invalid int value: " ++ Text.quoted text))

def nextPlain (flag : Flag) : List Arg → Except Exit String
  | .plain text :: _ => .ok text
  | _ => .error (complaint flag "expected one argument")

/-- The flags that follow `-h` in one argument. Help is shown in the end, unless one of them is
wrong. -/
def helpCluster (rest : List Arg) : List Char → Exit
  | [] => .help
  | '-' :: cs => ignoredArgument .help ('-' :: cs)
  | 'h' :: '=' :: cs => ignoredArgument .help cs
  | 'h' :: cs => helpCluster rest cs
  | ['c'] =>
    match nextPlain .command rest with
    | .ok _ => .help
    | .error e => e
  | _ => .help

def helpExit (rest : List Arg) : Attached → Exit
  | .none => .help
  | .afterSign text => ignoredArgument .help text
  | .atOnce text => helpCluster rest text

/-- Takes the arguments from left to right; what is not accepted is collected. -/
def take (line : CommandLine) (extras : List String) :
    List Arg → Except Exit (CommandLine × List String)
  | [] => .ok (line, extras)
  | .plain text :: rest => take line (extras ++ [text]) rest
  | .mark :: rest => take line (extras ++ ["--"]) rest
  | .unknown text :: rest => take line (extras ++ [text]) rest
  | .flag .help attached :: rest => .error (helpExit rest attached)
  | .flag flag .none :: .plain text :: rest =>
    (assign line flag text).bind fun line => take line extras rest
  | .flag flag .none :: _ => .error (complaint flag "expected one argument")
  | .flag flag (.afterSign text) :: rest =>
    (assign line flag (String.ofList text)).bind fun line => take line extras rest
  | .flag flag (.atOnce text) :: rest =>
    (assign line flag (String.ofList text)).bind fun line => take line extras rest

def parse (argv : List String) : Except Exit CommandLine :=
  (classifyAll argv).bind fun args => (take {} [] args).bind fun (line, extras) =>
    if extras.isEmpty then .ok line
    else .error (.wrong ("unrecognized arguments: " ++ " ".intercalate extras))

end CommandLine

end LambdaCalc
