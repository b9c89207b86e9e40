import LambdaCalc.Proofs.Decimal.Rank

namespace LambdaCalc.Decimal

attribute [local instance (high)] instPowNat

theorem width_le_iff {n k : Nat} : width n ≤ k ↔ n < 10 ^ k := by
  by_cases zero : n = 0
  · subst zero
    simp only [width, ↓reduceIte, Nat.zero_le, true_iff]
    exact Nat.pow_pos (by decide)
  · simp only [width, zero, ↓reduceIte]
    by_cases none : k = 0
    · subst none
      have positive := @Nat.length_toDigits_pos 10 n
      simp only [Nat.pow_zero]
      omega
    · exact Nat.length_toDigits_le_iff (by decide) (Nat.pos_of_ne_zero none)

theorem lt_width_iff {n k : Nat} : k < width n ↔ 10 ^ k ≤ n := by
  rw [← Nat.not_le, width_le_iff, Nat.not_lt]

theorem width_pos {n : Nat} (nonzero : n ≠ 0) : 0 < width n := by
  rw [lt_width_iff, Nat.pow_zero]
  exact Nat.one_le_iff_ne_zero.mpr nonzero

theorem width_mul_pow {n : Nat} (nonzero : n ≠ 0) (k : Nat) : width (n * 10 ^ k) = width n + k := by
  have power : 0 < 10 ^ k := Nat.pow_pos (by decide)
  apply Nat.le_antisymm
  · rw [width_le_iff, Nat.pow_add]
    exact Nat.mul_lt_mul_of_pos_right (width_le_iff.mp (Nat.le_refl _)) power
  · have positive := width_pos nonzero
    have least : 10 ^ (width n - 1) ≤ n := lt_width_iff.mp (by omega)
    have below : width n - 1 + k < width (n * 10 ^ k) := by
      rw [lt_width_iff, Nat.pow_add]
      exact Nat.mul_le_mul_right _ least
    omega

theorem rank_shift (n k : Nat) (e : Int) : rank ⟨n * 10 ^ k, e - k⟩ = rank ⟨n, e⟩ := by
  obtain ⟨j, behind, before⟩ : ∃ j, (-(e - k)).toNat = (-e).toNat + j ∧
      (e - k).toNat + k = e.toNat + j := ⟨(-(e - k)).toNat - (-e).toNat, by omega, by omega⟩
  simp only [rank]
  generalize Binary64.scale = unit
  have digits : n * 10 ^ k * unit * 10 ^ (e - k).toNat = n * unit * 10 ^ e.toNat * 10 ^ j := by
    calc n * 10 ^ k * unit * 10 ^ (e - k).toNat
        = n * unit * (10 ^ (e - k).toNat * 10 ^ k) := by ac_rfl
      _ = n * unit * (10 ^ e.toNat * 10 ^ j) := by rw [← Nat.pow_add, before, Nat.pow_add]
      _ = n * unit * 10 ^ e.toNat * 10 ^ j := by rw [← Nat.mul_assoc]
  rw [digits, behind, Nat.pow_add]
  exact Binary64.nearestRank_mul _ _ _ (Nat.pow_pos (by decide))

theorem toBinary64_of_digits_eq_zero (negative : Bool) {d : Decimal} (zero : d.digits = 0) :
    toBinary64 negative d = .zero negative := by
  simp only [toBinary64, zero, true_or, ↓reduceIte]

theorem toBinary64_shift (negative : Bool) (n k : Nat) (e : Int) :
    toBinary64 negative ⟨n * 10 ^ k, e - k⟩ = toBinary64 negative ⟨n, e⟩ := by
  by_cases zero : n = 0
  · have none : n * 10 ^ k = 0 := by rw [zero, Nat.zero_mul]
    rw [toBinary64_of_digits_eq_zero negative none, toBinary64_of_digits_eq_zero negative zero]
  · have power : n * 10 ^ k ≠ 0 := Nat.mul_ne_zero zero (Nat.ne_of_gt (Nat.pow_pos (by decide)))
    have top : ((width n + k : Nat) : Int) + (e - k) = width n + e := by omega
    simp only [toBinary64, zero, power, false_or, width_mul_pow zero, top, rank_shift]

theorem toBinary64_dropZeros (negative : Bool) (fuel : Nat) (d : Decimal) :
    toBinary64 negative (dropZeros fuel d) = toBinary64 negative d := by
  induction fuel generalizing d with
  | zero => rfl
  | succ fuel ih =>
    simp only [dropZeros]
    split
    · rename_i divisible
      have shifted := toBinary64_shift negative (d.digits / 10) 1 (d.exponent + 1)
      have digits : d.digits / 10 * 10 ^ (1 : Nat) = d.digits := by omega
      have exponent : d.exponent + 1 - ((1 : Nat) : Int) = d.exponent := by omega
      rw [digits, exponent] at shifted
      rw [ih, ← shifted]
    · rfl

theorem dropZeros_digits_ne_zero (fuel : Nat) (d : Decimal) (nonzero : d.digits ≠ 0) :
    (dropZeros fuel d).digits ≠ 0 := by
  induction fuel generalizing d with
  | zero => exact nonzero
  | succ fuel ih =>
    simp only [dropZeros]
    split
    · rename_i divisible
      exact ih _ (by simp only; omega)
    · exact nonzero

theorem rank_eq_zero_of_digits {d : Decimal} (zero : d.digits = 0) : d.rank = 0 := by
  simp only [rank, zero, Nat.zero_mul]
  exact Binary64.nearestRank_tiny (Nat.pow_pos (by decide))

theorem rank_units (r : Nat) {k : Nat} (unit : Binary64.scale = 2 ^ k) :
    rank ⟨Binary64.units r * 5 ^ k, -(k : Int)⟩ = r := by
  have front : (-(k : Int)).toNat = 0 := by omega
  have behind : (- -(k : Int)).toNat = k := by omega
  simp only [rank, unit, front, behind, Nat.pow_zero, Nat.mul_one, Nat.mul_assoc, ← Nat.mul_pow]
  exact Binary64.nearestRank_units r _ (Nat.pow_pos (by decide))

theorem exact_rank (r : Nat) : (exact r).rank = r := @rank_units r 1074 (by rw [Binary64.scale])

theorem nearer_eq (whole below above : Decimal) (count : Nat) :
    nearer whole below above count = below ∨ nearer whole below above count = above := by
  unfold nearer
  split
  · exact .inl rfl
  · exact .inr rfl
  · split
    · exact .inl rfl
    · exact .inr rfl

theorem neighbour?_rank {whole d : Decimal} {r count : Nat} (found : whole.neighbour? r count = some d) :
    d.rank = r := by
  simp only [neighbour?] at found
  generalize whole.cut count = below at found
  generalize below.next = above at found
  by_cases readBelow : below.rank = r
  · by_cases readAbove : above.rank = r
    · -- Both pass the test, so it does not matter which is nearer.
      simp only [readBelow, readAbove, ↓reduceIte, Option.some.injEq] at found
      rcases nearer_eq whole below above count with chosen | chosen
      · exact found ▸ chosen.symm ▸ readBelow
      · exact found ▸ chosen.symm ▸ readAbove
    · simp only [readBelow, readAbove, ↓reduceIte, Option.some.injEq] at found
      exact found ▸ readBelow
  · simp only [readBelow, ↓reduceIte, Option.ite_none_right_eq_some, Option.some.injEq] at found
    exact found.2 ▸ found.1

theorem shortest_rank (r : Nat) : (shortest r).rank = r := by
  have own := exact_rank r
  simp only [shortest]
  generalize exact r = whole at own ⊢
  generalize search : List.findSome? _ (List.range 17) = result
  cases result with
  | none => exact own
  | some d =>
    obtain ⟨n, -, found⟩ := List.exists_of_findSome?_eq_some search
    exact neighbour?_rank found

theorem rank_eq_zero_of_tiny {d : Decimal} (nonzero : d.digits ≠ 0)
    (tiny : width d.digits + d.exponent < -400) : d.rank = 0 := by
  have positive := width_pos nonzero
  have front : d.exponent.toNat = 0 := by omega
  have below : d.digits < 10 ^ width d.digits := width_le_iff.mp (Nat.le_refl _)
  -- The bounds of the format are kept behind a variable: their powers are never computed below.
  obtain ⟨places, far, scaled⟩ : ∃ places, width d.digits + places ≤ (-d.exponent).toNat ∧
      2 * Binary64.scale ≤ 10 ^ places := ⟨401, by omega, by decide +kernel⟩
  apply Binary64.nearestRank_tiny
  rw [front, Nat.pow_zero, Nat.mul_one]
  calc 2 * (d.digits * Binary64.scale)
      = d.digits * (2 * Binary64.scale) := Nat.mul_left_comm _ _ _
    _ ≤ d.digits * 10 ^ places := Nat.mul_le_mul_left _ scaled
    _ < 10 ^ width d.digits * 10 ^ places :=
        Nat.mul_lt_mul_of_pos_right below (Nat.pow_pos (by decide))
    _ = 10 ^ (width d.digits + places) := (Nat.pow_add _ _ _).symm
    _ ≤ 10 ^ (-d.exponent).toNat := Nat.pow_le_pow_right (by decide) far

theorem ranks_le_rank_of_huge {d : Decimal} (nonzero : d.digits ≠ 0)
    (huge : 310 < width d.digits + d.exponent) : Binary64.ranks ≤ d.rank := by
  have positive := width_pos nonzero
  have least : 10 ^ (width d.digits - 1) ≤ d.digits := lt_width_iff.mp (by omega)
  obtain ⟨bits, places, many, far, scaled⟩ : ∃ bits places, 2098 ≤ bits ∧
      (-d.exponent).toNat + places ≤ width d.digits - 1 + d.exponent.toNat ∧
      2 ^ bits ≤ 10 ^ places * Binary64.scale :=
    ⟨2098, 310, by decide, by omega, by decide +kernel⟩
  apply Binary64.nearestRank_huge (Nat.pow_pos (by decide)) many
  calc 10 ^ (-d.exponent).toNat * 2 ^ bits
      ≤ 10 ^ (-d.exponent).toNat * (10 ^ places * Binary64.scale) := Nat.mul_le_mul_left _ scaled
    _ = 10 ^ ((-d.exponent).toNat + places) * Binary64.scale := by
        rw [← Nat.mul_assoc, ← Nat.pow_add]
    _ ≤ 10 ^ (width d.digits - 1 + d.exponent.toNat) * Binary64.scale :=
        Nat.mul_le_mul_right _ (Nat.pow_le_pow_right (by decide) far)
    _ = 10 ^ (width d.digits - 1) * 10 ^ d.exponent.toNat * Binary64.scale := by rw [Nat.pow_add]
    _ ≤ d.digits * 10 ^ d.exponent.toNat * Binary64.scale :=
        Nat.mul_le_mul_right _ (Nat.mul_le_mul_right _ least)
    _ = d.digits * Binary64.scale * 10 ^ d.exponent.toNat := Nat.mul_right_comm _ _ _

theorem toBinary64_of_rank (negative : Bool) {d : Decimal} {r : Fin Binary64.ranks}
    (same : d.rank = r.val) (nonzero : r.val ≠ 0) : toBinary64 negative d = .finite negative r := by
  have digits : d.digits ≠ 0 := fun zero => nonzero (same ▸ rank_eq_zero_of_digits zero)
  have low : ¬ (width d.digits + d.exponent < -400) := fun tiny =>
    nonzero (same ▸ rank_eq_zero_of_tiny digits tiny)
  have high : ¬ (310 < width d.digits + d.exponent) := fun huge => by
    have beyond := ranks_le_rank_of_huge digits huge
    have inside := r.isLt
    omega
  simp only [toBinary64, digits, low, high, or_self, ↓reduceIte, same, Binary64.ofRank, r.isLt,
    ↓reduceDIte, Fin.eta]

/-- The digits of a finite number, without the zeros at their end, are read back as the number. -/
theorem toBinary64_shortest (negative : Bool) {r : Fin Binary64.ranks} (nonzero : r.val ≠ 0) :
    toBinary64 negative (shortest r).normal = .finite negative r := by
  rw [normal, toBinary64_dropZeros]
  exact toBinary64_of_rank negative (shortest_rank r) nonzero

theorem shortest_normal_digits_ne_zero {r : Nat} (nonzero : r ≠ 0) :
    (shortest r).normal.digits ≠ 0 := by
  apply dropZeros_digits_ne_zero
  intro zero
  exact nonzero (shortest_rank r ▸ rank_eq_zero_of_digits zero)

end LambdaCalc.Decimal
