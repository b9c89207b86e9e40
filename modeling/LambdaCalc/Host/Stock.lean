import LambdaCalc.Host.Primitives

namespace LambdaCalc.Host

attribute [local instance (high)] instPowNat

def recorder : Host := fun args => { entries := [args], result := .ok (.number (args.headD (.int 0))) }

def total : Host := ofFunction fun args => args.foldlM Number.add (.int 0)

def count : Host := ofFunction fun args => .ok (.int args.length)

def constant (n : Number) : Host := ofFunction fun _ => .ok n

def answering (display : String) : Host := fun _ => { result := .ok (.object (.ok display)) }

def lister : Host := fun args =>
  { result := .ok (.object ((args.mapM Number.display?).map Text.bracketed)) }

def failing (kind : Fault.Kind) : Host := ofFunction fun _ => .error (.raised kind "boom")

def stock : List (String × Host) :=
  primitives ++
  [("rec", recorder),
   ("sum", total),
   ("count", count),
   ("str", answering (Text.quoted "it's")),
   ("none", answering "None"),
   ("true", constant (.bool true)),
   ("list", lister),
   ("inf", constant (.float (.infinite false))),
   ("nan", constant (.float (.nan 0))),
   ("huge", constant (.int (Int.ofNat (10 ^ (4400 : Nat))))),
   ("type_error", failing .type),
   ("value_error", failing .value),
   ("zero_error", failing .zeroDivision),
   ("overflow_error", failing .overflow),
   ("key_error", failing .key),
   ("runtime_error", failing .runtime)]

end LambdaCalc.Host
