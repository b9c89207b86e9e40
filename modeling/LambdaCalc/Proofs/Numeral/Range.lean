import LambdaCalc.Host.Primitives
import LambdaCalc.Proofs.Eval.Levels
import LambdaCalc.Proofs.Numeral.ReadBack

namespace LambdaCalc

attribute [local instance (high)] instPowNat

namespace Number

theorem bitLength_le_iff {n k : Nat} : bitLength n ≤ k ↔ n < 2 ^ k := by
  by_cases zero : n = 0
  · subst zero
    have power : 0 < 2 ^ k := Nat.two_pow_pos k
    simp only [bitLength, ↓reduceIte, Nat.zero_le, power]
  · simp only [bitLength, zero, ↓reduceIte]
    exact Nat.succ_le_iff.trans (Nat.log2_lt zero)

theorem inRange_int_iff (n : Int) : (int n).inRange = true ↔ n.natAbs < 2 ^ maxBits := by
  rw [inRange, decide_eq_true_eq, bitLength_le_iff]

theorem two_pow_maxBits_lt : 2 ^ maxBits < 10 ^ maxDigits := by decide +kernel

theorem ten_pow_le_two_pow_maxBits : 10 ^ (maxDigits - 1) ≤ 2 ^ maxBits := by decide +kernel

theorem width_le_of_inRange {n : Int} (inside : (int n).inRange = true) :
    Decimal.width n.natAbs ≤ maxDigits := by
  rw [Decimal.width_le_iff]
  exact Nat.lt_trans ((inRange_int_iff n).mp inside) two_pow_maxBits_lt

/-- Finite, or an integer of at most `maxDigits` digits. A truth value is the integer that it stands
for. -/
def isBounded : Number → Bool
  | float x => x.isFinite
  | n => n.toInt?.any fun k => Decimal.width k.natAbs ≤ maxDigits

theorem isBounded_of_inRange {n : Number} (inside : n.inRange = true) : n.isBounded = true := by
  cases n with
  | int k => exact decide_eq_true (width_le_of_inRange inside)
  | float x => exact inside
  | bool b => cases b <;> decide

theorem isBounded_of_hasNumeral {n : Number} (numeral : n.hasNumeral = true) : n.isBounded = true := by
  cases n with
  | int k => exact numeral
  | float x => exact numeral
  | bool b => contradiction

def isPlain : Number → Bool
  | bool _ => false
  | _ => true

theorem hasNumeral_of_inRange {n : Number} (inside : n.inRange = true) (plain : n.isPlain = true) :
    n.hasNumeral = true := by
  cases n with
  | int k => exact decide_eq_true (width_le_of_inRange inside)
  | float x => exact inside
  | bool b => contradiction

theorem isWritable_of_isBounded {n : Number} (bounded : n.isBounded = true) : n.isWritable = true := by
  cases n with
  | int k => exact bounded
  | float x => rfl
  | bool b => rfl

theorem text?_of_isBounded {n : Number} (bounded : n.isBounded = true) : n.text? = .ok n.text := by
  rw [text?, if_pos (isWritable_of_isBounded bounded)]

end Number

namespace Numeral

theorem digitValue?_lt {c : Char} {d : Nat} (value : Text.digitValue? c = some d) : d < 10 := by
  obtain ⟨start, found, rfl⟩ := Option.map_eq_some_iff.mp value
  have inside := List.find?_some found
  simp only [Bool.and_eq_true, decide_eq_true_eq] at inside
  omega

theorem digits?_lt {cs : List Char} {ds : List Nat} (spelled : digits? cs = some ds) :
    ∀ d ∈ ds, d < 10 := by
  fun_induction digits? cs generalizing ds with
  | case1 => contradiction
  | case2 c =>
    obtain ⟨d, value, rfl⟩ := Option.map_eq_some_iff.mp spelled
    intro e member
    rw [List.mem_singleton.mp member]
    exact digitValue?_lt value
  | case3 c rest ih =>
    obtain ⟨d, value, more⟩ := Option.bind_eq_some_iff.mp spelled
    obtain ⟨es, others, rfl⟩ := Option.map_eq_some_iff.mp more
    exact List.forall_mem_cons.mpr ⟨digitValue?_lt value, ih others⟩
  | case4 c rest single underscored ih =>
    obtain ⟨d, value, more⟩ := Option.bind_eq_some_iff.mp spelled
    obtain ⟨es, others, rfl⟩ := Option.map_eq_some_iff.mp more
    exact List.forall_mem_cons.mpr ⟨digitValue?_lt value, ih others⟩

theorem ofDigits_lt {ds : List Nat} (digits : ∀ d ∈ ds, d < 10) : ofDigits ds < 10 ^ ds.length := by
  have general : ∀ n, ds.foldl (fun n d => 10 * n + d) n < (n + 1) * 10 ^ ds.length := by
    induction ds with
    | nil => intro n; simp
    | cons d ds ih =>
      intro n
      have first := digits d List.mem_cons_self
      have rest := ih (fun e member => digits e (List.mem_cons_of_mem d member)) (10 * n + d)
      calc ds.foldl (fun n d => 10 * n + d) (10 * n + d)
          < (10 * n + d + 1) * 10 ^ ds.length := rest
        _ ≤ (10 * (n + 1)) * 10 ^ ds.length := Nat.mul_le_mul_right _ (by omega)
        _ = (n + 1) * 10 ^ (ds.length + 1) := by rw [Nat.pow_succ]; ac_rfl
  have whole := general 0
  rwa [Nat.zero_add, Nat.one_mul] at whole

theorem natAbs_signed (negative : Bool) (n : Nat) : (signed negative n).natAbs = n := by
  cases negative with
  | true => exact Int.natAbs_neg n
  | false => rfl

theorem width_of_int? {cs : List Char} {n : Int} (value : int? cs = some n) :
    Decimal.width n.natAbs ≤ Number.maxDigits := by
  obtain ⟨ds, spelled, counted⟩ := Option.bind_eq_some_iff.mp value
  by_cases long : Number.maxDigits < ds.length
  · rw [if_pos long] at counted
    contradiction
  · rw [if_neg long, Option.some.injEq] at counted
    rw [← counted, natAbs_signed, Decimal.width_le_iff]
    calc ofDigits ds < 10 ^ ds.length := ofDigits_lt (digits?_lt spelled)
      _ ≤ 10 ^ Number.maxDigits := Nat.pow_le_pow_right (by decide) (Nat.le_of_not_lt long)

theorem hasNumeral_of_read {text : String} {n : Number} (value : read text = .ok n) :
    n.hasNumeral = true := by
  simp only [read] at value
  split at value
  · split at value
    · contradiction
    · rename_i x spelled
      by_cases finite : x.isFinite = true
      · rw [if_pos finite, Except.ok.injEq] at value
        rw [← value]
        exact finite
      · rw [if_neg finite] at value
        contradiction
  · split at value
    · rename_i k spelled
      rw [Except.ok.injEq] at value
      rw [← value]
      exact decide_eq_true (width_of_int? spelled)
    · contradiction

end Numeral

namespace Number

theorem width_le_length (n : Nat) : Decimal.width n ≤ (Nat.toDigits 10 n).length := by
  unfold Decimal.width
  split
  · exact Nat.zero_le _
  · exact Nat.le_refl _

theorem read_intText_iff (n : Int) :
    (∃ m, Numeral.read (intText n) = .ok m) ↔ Decimal.width n.natAbs ≤ maxDigits := by
  constructor
  · rintro ⟨m, value⟩
    refine Nat.le_of_not_lt fun long => ?_
    have digits : maxDigits < (Nat.toDigits 10 n.natAbs).length :=
      Nat.lt_of_lt_of_le long (width_le_length n.natAbs)
    have refused : Numeral.int? (Binary64.signText (n < 0) ++ Nat.toDigits 10 n.natAbs) = none := by
      rw [Numeral.int?_digits _ Nat.toDigits_ne_nil fun c => Numeral.toDigits_isDigit, if_pos digits]
    simp only [Numeral.read, intText, String.toList_ofList, Numeral.contains_point_intText,
      Bool.false_eq_true, ↓reduceIte, refused] at value
    contradiction
  · intro short
    exact ⟨int n, Numeral.read_intText short⟩

/-- From the first integer with too many bits up to the last with few enough digits. -/
def BetweenBounds (n : Int) : Prop := 2 ^ maxBits ≤ n.natAbs ∧ n.natAbs < 10 ^ maxDigits

theorem inRange_iff_width_iff (n : Int) :
    ((int n).inRange = true ↔ Decimal.width n.natAbs ≤ maxDigits) ↔ ¬ BetweenBounds n := by
  rw [inRange_int_iff, Decimal.width_le_iff, BetweenBounds]
  have order := two_pow_maxBits_lt
  generalize 2 ^ maxBits = bits at order ⊢
  generalize 10 ^ maxDigits = digits at order ⊢
  omega

theorem width_of_betweenBounds {n : Int} (between : BetweenBounds n) :
    Decimal.width n.natAbs = maxDigits := by
  have upper : Decimal.width n.natAbs ≤ maxDigits := Decimal.width_le_iff.mpr between.2
  have lower : maxDigits - 1 < Decimal.width n.natAbs :=
    Decimal.lt_width_iff.mpr (Nat.le_trans ten_pow_le_two_pow_maxBits between.1)
  omega

theorem applyPrimitive_number (name : String) {host : Host} {numbers : List Number} {n : Number}
    (answer : (host numbers).result = .ok (.number n)) (w : World) :
    (applyPrimitive name host (numbers.map Value.number) w).1 =
      if n.inRange then .ok (.number n) else .error (.error (.primitive name "result is out of range")) := by
  rw [applyPrimitive_ok (numbersOf_eq_ok_iff.mpr rfl) w.calls w.serial]
  simp only [Conclusion.run, answer, acceptAnswer]
  split <;> rfl

theorem max_rejects {n : Int} (between : BetweenBounds n) (w : World) :
    Numeral.read (intText n) = .ok (int n) ∧ (int n).inRange = false ∧
      (applyPrimitive "max" (Host.choice "max" greatest) [.number (int n)] w).1 =
        .error (.error (.primitive "max" "result is out of range")) := by
  have large : ¬ (int n).inRange = true := by
    rw [inRange_int_iff]
    exact Nat.not_lt.mpr between.1
  have single : (Host.choice "max" greatest [int n]).result = .ok (.number (int n)) := rfl
  refine ⟨Numeral.read_intText (Nat.le_of_eq (width_of_betweenBounds between)), ?_, ?_⟩
  · exact Bool.eq_false_iff.mpr large
  · exact (applyPrimitive_number "max" single w).trans (if_neg large)

/-- Reading and accepting agree on an integer, digits and bits agree on it, and no primitive that
answers one of its arguments rejects it although it was read, each exactly when the integer is not
between the bounds. All integers there have as many digits as an integer may have. -/
theorem inRange_iff_read_iff (n : Int) :
    (((int n).inRange = true ↔ ∃ m, Numeral.read (intText n) = .ok m) ↔ ¬ BetweenBounds n) ∧
    (((int n).inRange = true ↔ Decimal.width n.natAbs ≤ maxDigits) ↔ ¬ BetweenBounds n) ∧
    ((∀ (name : String) (host : Host) (numbers : List Number) (w : World), int n ∈ numbers →
        (host numbers).result = .ok (.number (int n)) → Numeral.read (intText n) = .ok (int n) →
        (applyPrimitive name host (numbers.map Value.number) w).1 = .ok (.number (int n))) ↔
      ¬ BetweenBounds n) ∧
    (BetweenBounds n → Decimal.width n.natAbs = maxDigits) := by
  have digits := inRange_iff_width_iff n
  refine ⟨by rw [read_intText_iff, digits], digits, ⟨?_, ?_⟩, width_of_betweenBounds⟩
  · intro kept between
    obtain ⟨read, -, rejected⟩ := max_rejects between {}
    have chosen := kept "max" (Host.choice "max" greatest) [int n] {} List.mem_cons_self rfl read
    have clash := rejected.symm.trans chosen
    contradiction
  · intro outside name host numbers w member answer read
    have inside := (digits.mpr outside).mpr ((read_intText_iff n).mp ⟨_, read⟩)
    rw [applyPrimitive_number name answer, if_pos inside]

/-- The first power of two with too many bits has few enough digits. -/
theorem two_pow_maxBits_read :
    let n := Int.ofNat (2 ^ maxBits)
    Numeral.read (intText n) = .ok (int n) ∧ (int n).inRange = false ∧
      (applyPrimitive "max" (Host.choice "max" greatest) [.number (int n)] {}).1 =
        .error (.error (.primitive "max" "result is out of range")) := by
  intro n
  have between : BetweenBounds n := by
    rw [BetweenBounds, show n.natAbs = 2 ^ maxBits from Int.natAbs_natCast _]
    exact ⟨Nat.le_refl _, two_pow_maxBits_lt⟩
  exact max_rejects between {}

end Number

end LambdaCalc
