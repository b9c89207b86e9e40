import LambdaCalc.Proofs.Interpreter.Outcome

namespace LambdaCalc

namespace Fault

def Only {α : Type} (q : Fault → Prop) (result : Except Fault α) : Prop := ∀ f, result = .error f → q f

namespace Only

variable {α β : Type} {q r : Fault → Prop}

theorem ok (a : α) : Only q (.ok a) := by
  intro f failed
  cases failed

theorem error {f : Fault} (holds : q f) : Only q (.error f : Except Fault α) := by
  intro g failed
  cases failed
  exact holds

theorem mono {result : Except Fault α} (only : Only q result) (implies : ∀ f, q f → r f) : Only r result :=
  fun f failed => implies f (only f failed)

theorem bind {result : Except Fault α} {next : α → Except Fault β} (first : Only q result)
    (rest : ∀ a, Only q (next a)) : Only q (result.bind next) := by
  cases result with
  | ok a => exact rest a
  | error f => exact .error (first f rfl)

theorem map {result : Except Fault α} (g : α → β) (first : Only q result) : Only q (result.map g) := by
  cases result with
  | ok a => exact .ok (g a)
  | error f => exact .error (first f rfl)

theorem ite {p : Prop} [Decidable p] {yes no : Except Fault α} (first : Only q yes) (second : Only q no) :
    Only q (if p then yes else no) := by
  split
  · exact first
  · exact second

end Only

def isArithmetic : Fault → Bool
  | byZero _ | tooLarge _ | noRealPower _ _ | notIntegral _ => true
  | arity _ _ _ | noArgument _ | tooManyDigits | raised _ _ | untold _ _ => false

abbrev OnlyArithmetic {α : Type} (result : Except Fault α) : Prop := Only (fun f => f.isArithmetic = true) result

/-- How a function of this name fails: on account of its operands, or of their number. -/
inductive Of (name : String) : Fault → Prop where
  | arithmetic {f : Fault} (operands : f.isArithmetic = true) : Of name f
  | arity (expected got : Nat) : Of name (.arity name expected got)
  | noArgument : Of name (.noArgument name)

theorem Of.isRejection {name : String} {f : Fault} (own : Of name f) : f.isRejection = true := by
  cases own with
  | arithmetic operands =>
    cases f with
    | byZero | tooLarge | noRealPower | notIntegral => rfl
    | arity | noArgument | tooManyDigits | raised | untold => cases operands
  | arity expected got => rfl
  | noArgument => rfl

theorem Of.message? {name : String} {f : Fault} (own : Of name f) : ∃ message, f.message? = .ok message := by
  cases own with
  | arithmetic operands =>
    cases f with
    | byZero | tooLarge | noRealPower | notIntegral => exact ⟨_, rfl⟩
    | arity | noArgument | tooManyDigits | raised | untold => cases operands
  | arity expected got => exact ⟨_, rfl⟩
  | noArgument => exact ⟨_, rfl⟩

end Fault

namespace Number

open Fault

theorem onlyArithmetic_toFloat (a : Number) : OnlyArithmetic a.toFloat := by
  cases a with
  | float x => exact .ok x
  | int n => exact .ite (.ok _) (.error rfl)
  | bool b => exact .ite (.ok _) (.error rfl)

theorem onlyArithmetic_combine {onInt : Int → Int → Except Fault Number}
    {onFloat : Binary64 → Binary64 → Except Fault Number} (a b : Number)
    (ints : ∀ m n, OnlyArithmetic (onInt m n)) (floats : ∀ x y, OnlyArithmetic (onFloat x y)) :
    OnlyArithmetic (combine onInt onFloat a b) := by
  unfold combine
  split
  · exact ints _ _
  · exact a.onlyArithmetic_toFloat.bind fun x => b.onlyArithmetic_toFloat.bind fun y => floats x y

theorem onlyArithmetic_combined {onInt : Int → Int → Int} {onFloat : Binary64 → Binary64 → Binary64}
    (a b : Number) : OnlyArithmetic (combine (fun m n => .ok (int (onInt m n)))
      (fun x y => .ok (float (onFloat x y))) a b) :=
  onlyArithmetic_combine a b (fun _ _ => .ok _) (fun _ _ => .ok _)

theorem onlyArithmetic_trueDiv (a b : Number) : OnlyArithmetic (trueDiv a b) :=
  .ite (.error rfl) (onlyArithmetic_combine a b (fun _ _ => .ite (.ok _) (.error rfl)) (fun _ _ => .ok _))

theorem onlyArithmetic_finitePower (x y : Binary64) : OnlyArithmetic (finitePower x y) := by
  refine .ite (.error ?_) (.ite (.ok _) (.error rfl))
  exact (apply_ite isArithmetic _ _ _).trans (ite_self true)

theorem onlyArithmetic_floatPower (x y : Binary64) : OnlyArithmetic (floatPower x y) := by
  refine .ite (.ok _) (.ite (.ok _) (.ite (.ok _) ?_))
  split
  · exact .ok _
  · exact .ok _
  · exact .ite (.ite (.error rfl) (.ok _)) (onlyArithmetic_finitePower x y)

theorem onlyArithmetic_showOperands (a b : Number) {result : Except Fault Binary64}
    (arithmetic : OnlyArithmetic result) : OnlyArithmetic (showOperands a b result) := by
  unfold showOperands
  split
  · exact .ok _
  · exact .error rfl
  · exact .error (arithmetic _ rfl)

theorem onlyArithmetic_pow (a b : Number) : OnlyArithmetic (pow a b) := by
  have asFloats : OnlyArithmetic (a.toFloat.bind fun x => b.toFloat.bind fun y =>
      showOperands a b (floatPower x y)) :=
    a.onlyArithmetic_toFloat.bind fun x => b.onlyArithmetic_toFloat.bind fun y =>
      onlyArithmetic_showOperands a b (onlyArithmetic_floatPower x y)
  unfold pow
  split
  · exact .ite (.ok _) asFloats
  · exact asFloats

theorem onlyArithmetic_truncate (a : Number) : OnlyArithmetic (truncate a) := by
  cases a with
  | float x => exact .ite (.ok _) (.error rfl)
  | int n => exact .ok _
  | bool b => exact .ok _

end Number

namespace Host

open Fault

/-- The function fails on account of its arguments only, and gives this name for itself. -/
def FailsAs (host : Host) (name : String) : Prop := ∀ numbers : List Number, Only (Of name) (host numbers).result

theorem failsAs_ofFunction {name : String} {f : List Number → Except Fault Number}
    (own : ∀ numbers, Only (Of name) (f numbers)) : (ofFunction f).FailsAs name :=
  fun numbers => (own numbers).map Answer.number

theorem unary_failsAs (name : String) {f : Number → Except Fault Number}
    (arithmetic : ∀ a, OnlyArithmetic (f a)) : (unary name f).FailsAs name := by
  refine failsAs_ofFunction fun numbers => ?_
  split
  · exact (arithmetic _).mono fun _ => .arithmetic
  · exact .error (.arity _ _)

theorem binary_failsAs (name : String) {f : Number → Number → Except Fault Number}
    (arithmetic : ∀ a b, OnlyArithmetic (f a b)) : (binary name f).FailsAs name := by
  refine failsAs_ofFunction fun numbers => ?_
  split
  · exact (arithmetic _ _).mono fun _ => .arithmetic
  · exact .error (.arity _ _)

theorem choice_failsAs (name : String) (f : Number → List Number → Number) : (choice name f).FailsAs name := by
  refine failsAs_ofFunction fun numbers => ?_
  split
  · exact .error .noArgument
  · exact .ok _

theorem primitives_failAs : ∀ entry ∈ primitives, entry.2.FailsAs entry.1 := by
  simp only [primitives, List.forall_mem_cons, List.not_mem_nil, false_implies, implies_true, and_true]
  -- In the order of the table.
  exact ⟨unary_failsAs _ fun a => .ok a.abs,
    binary_failsAs _ Number.onlyArithmetic_combined,
    unary_failsAs _ fun a => a.onlyArithmetic_toFloat.map _,
    binary_failsAs _ fun a b => .ite (.error rfl) (Number.onlyArithmetic_combined a b),
    unary_failsAs _ Number.onlyArithmetic_truncate,
    choice_failsAs _ _,
    choice_failsAs _ _,
    binary_failsAs _ fun a b => .ite (.error rfl) (Number.onlyArithmetic_combined a b),
    binary_failsAs _ Number.onlyArithmetic_combined,
    binary_failsAs _ Number.onlyArithmetic_pow,
    binary_failsAs _ Number.onlyArithmetic_combined,
    binary_failsAs _ Number.onlyArithmetic_trueDiv⟩

theorem primitives_display : ∀ entry ∈ primitives, entry.2.Displays :=
  fun entry member => stock_displays entry (List.mem_append_left _ member)

end Host

namespace Interpreter

variable {stack : Stack} {limit : Int} {source : String}

theorem declared_or_unwritten (stack : Stack) (limit : Int) (source : String) :
    Declared (default stack limit) Host.primitives source ((default stack limit).eval source).1 ∨
      ((default stack limit).eval source).1 = .error (.eval (.escaped .tooManyDigits)) ∧
        (Number.int limit).isWritable = false := by
  have ends := eval_ends Host.primitives_display stack limit source
  change Ends (default stack limit) Host.primitives source ((default stack limit).eval source).1 at ends
  generalize ((default stack limit).eval source).1 = outcome at ends ⊢
  cases ends with
  | declared ends => exact .inl ends
  | slipped slips =>
    cases slips with
    | untold reached entry call raised rejection untold =>
      obtain ⟨message, told⟩ := (Host.primitives_failAs _ entry _ _ raised).message?
      rw [told] at untold
      cases untold
    | unwritten read exhausted unwritable => exact .inr ⟨rfl, unwritable⟩

theorem reported_or_unwritten {failure : Failure} (failed : ((default stack limit).eval source).1 = .error failure) :
    (∃ kind message, failure.kind? = .ok kind ∧ failure.message? = .ok message) ∨
      failure = .eval (.escaped .tooManyDigits) ∧ (Number.int limit).isWritable = false := by
  rcases declared_or_unwritten stack limit source with ends | ⟨slipped, unwritable⟩
  · rw [failed] at ends
    cases ends with
    | reported named told own => exact .inl ⟨_, _, named, told⟩
    | passed reached entry call raised foreign =>
      have rejection := (Host.primitives_failAs _ entry _ _ raised).isRejection
      rw [foreign] at rejection
      cases rejection
  · rw [failed] at slipped
    exact .inr ⟨Except.error.inj slipped, unwritable⟩

theorem text?_of_default {value : Value} (yields : ((default stack limit).eval source).1 = .ok (some value)) :
    ∃ s, value.text? = .ok s := by
  have ends := eval_ends Host.primitives_display stack limit source
  rw [show ((ofTable stack Host.primitives limit).eval source).1 = .ok (some value) from yields] at ends
  cases ends with
  | declared ends =>
    cases ends with
    | value shown => exact ⟨_, shown⟩

end Interpreter

end LambdaCalc
