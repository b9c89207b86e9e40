import LambdaCalc.Numeral
import LambdaCalc.Text.Quoted

namespace LambdaCalc

namespace ReadError

inductive Reason where
  | unexpectedChar (c : Char)
  | numeral (error : Numeral.Error)
  | incomplete
  | unexpectedToken (shown : String)
  | expected (target : String) (got : Option String)
  | notParameter (shown : String)
  | duplicateParameter (name : String)
  | trailing
  | tooDeep
deriving DecidableEq

def Reason.message : Reason → String
  | unexpectedChar c => "unexpected character " ++ Text.quotedChar c
  | numeral error => error.message
  | incomplete => "incomplete expression"
  | unexpectedToken shown => "unexpected token " ++ shown
  | expected target (some got) => "expected " ++ target ++ ", got " ++ got
  | expected target none => "expected " ++ target ++ ", got end of input"
  | notParameter shown => "expected a parameter name, got " ++ shown
  | duplicateParameter name => "duplicate parameter '" ++ name ++ "' in lambda"
  | trailing => "unexpected trailing input"
  | tooDeep => "expression nested too deeply"

end ReadError

structure ReadError where
  reason : ReadError.Reason
  position : Option Nat
deriving DecidableEq

def ReadError.message (e : ReadError) : String :=
  match e.position with
  | some p => e.reason.message ++ " (at offset " ++ toString p ++ ")"
  | none => e.reason.message

def Numeral.readAt (position : Option Nat) (text : String) : Except ReadError Number :=
  match read text with
  | .ok n => .ok n
  | .error e => .error ⟨.numeral e, position⟩

namespace Numeral

variable {position : Option Nat} {text : String}

theorem readAt_eq_ok_iff {n : Number} : readAt position text = .ok n ↔ read text = .ok n := by
  unfold readAt
  split
  · rename_i value
    rw [value, Except.ok.injEq, Except.ok.injEq]
  · rename_i refused
    rw [refused]
    constructor <;> intro clash <;> cases clash

theorem readAt_eq_error_iff {err : ReadError} :
    readAt position text = .error err ↔ ∃ e, read text = .error e ∧ err = ⟨.numeral e, position⟩ := by
  unfold readAt
  split
  · rename_i value
    rw [value]
    constructor
    · intro clash
      cases clash
    · rintro ⟨e, clash, -⟩
      cases clash
  · rename_i e refused
    rw [refused, Except.error.injEq]
    constructor
    · rintro rfl
      exact ⟨e, rfl, rfl⟩
    · rintro ⟨e, same, rfl⟩
      cases same
      rfl

end Numeral

end LambdaCalc
