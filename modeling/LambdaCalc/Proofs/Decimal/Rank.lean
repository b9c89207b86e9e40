import LambdaCalc.Decimal

namespace LambdaCalc.Binary64

attribute [local instance (high)] instPowNat

theorem roundQuotient_mul (num den k : Nat) (positive : 0 < k) :
    roundQuotient (num * k) (den * k) = roundQuotient num den := by
  have quotient : num * k / (den * k) = num / den := Nat.mul_div_mul_right num den positive
  have remainder : num * k % (den * k) = num % den * k := Nat.mul_mod_mul_right k num den
  have below : 2 * (num % den * k) < den * k ↔ 2 * (num % den) < den := by
    rw [← Nat.mul_assoc]
    exact Nat.mul_lt_mul_right positive
  have above : den * k < 2 * (num % den * k) ↔ den < 2 * (num % den) := by
    rw [← Nat.mul_assoc]
    exact Nat.mul_lt_mul_right positive
  simp only [roundQuotient, quotient, remainder, below, above]

theorem roundQuotient_exact (n den : Nat) (positive : 0 < den) : roundQuotient (n * den) den = n := by
  have quotient : n * den / den = n := Nat.mul_div_left n positive
  have remainder : n * den % den = 0 := Nat.mul_mod_left n den
  simp only [roundQuotient, quotient, remainder, Nat.mul_zero, positive, ↓reduceIte]

theorem div_le_roundQuotient (num den : Nat) : num / den ≤ roundQuotient num den := by
  simp only [roundQuotient]
  split
  · exact Nat.le_refl _
  · split <;> omega

theorem nearestRank_mul (num den k : Nat) (positive : 0 < k) :
    nearestRank (num * k) (den * k) = nearestRank num den := by
  have quotient : num * k / (den * k) = num / den := Nat.mul_div_mul_right num den positive
  simp only [nearestRank, quotient]
  have swapped : den * k * 2 ^ ((num / den).log2 - 52) = den * 2 ^ ((num / den).log2 - 52) * k :=
    Nat.mul_right_comm _ _ _
  rw [swapped, roundQuotient_mul _ _ k positive]

theorem log2_mul_two_pow {m k : Nat} (low : 2 ^ (52 : Nat) ≤ m) (high : m < 2 ^ (53 : Nat)) :
    (m * 2 ^ k).log2 = 52 + k := by
  have power : 0 < 2 ^ k := Nat.two_pow_pos k
  have nonzero : m * 2 ^ k ≠ 0 := Nat.ne_of_gt (Nat.mul_pos (by omega) power)
  rw [Nat.log2_eq_iff nonzero, Nat.pow_add, show 52 + k + 1 = 53 + k by omega, Nat.pow_add]
  exact ⟨Nat.mul_le_mul_right _ low, Nat.mul_lt_mul_of_pos_right high power⟩

theorem nearestRank_units (rank den : Nat) (positive : 0 < den) :
    nearestRank (units rank * den) den = rank := by
  have quotient : units rank * den / den = units rank := Nat.mul_div_left _ positive
  simp only [nearestRank, quotient]
  have split := Nat.div_add_mod rank (2 ^ (52 : Nat))
  have fraction : rank % 2 ^ (52 : Nat) < 2 ^ (52 : Nat) := Nat.mod_lt _ (Nat.two_pow_pos 52)
  by_cases small : rank < 2 ^ (52 : Nat)
  · -- Below the first doubling a rank is its own number of units.
    have first : rank / 2 ^ (52 : Nat) = 0 := Nat.div_eq_of_lt small
    have whole : units rank = rank := by
      simp only [units, first, Nat.zero_sub, Nat.zero_mul, Nat.sub_zero, Nat.pow_zero, Nat.mul_one]
    have bound : rank.log2 ≤ 52 := by
      by_cases zero : rank = 0
      · simp [zero]
      · exact Nat.le_of_lt ((Nat.log2_lt zero).mpr small)
    have none : rank.log2 - 52 = 0 := by omega
    rw [whole, none, Nat.pow_zero, Nat.mul_one, roundQuotient_exact rank den positive, Nat.zero_mul,
      Nat.zero_add]
  · have doublings : 1 ≤ rank / 2 ^ (52 : Nat) := by omega
    generalize block : rank / 2 ^ (52 : Nat) = q at *
    have mantissa : rank - (q - 1) * 2 ^ (52 : Nat) = 2 ^ (52 : Nat) + rank % 2 ^ (52 : Nat) := by omega
    have whole : units rank = (2 ^ (52 : Nat) + rank % 2 ^ (52 : Nat)) * 2 ^ (q - 1) := by
      simp only [units, block, mantissa]
    have logarithm : (units rank).log2 - 52 = q - 1 := by
      rw [whole, log2_mul_two_pow (by omega) (by omega)]
      omega
    rw [logarithm, whole, Nat.mul_assoc, Nat.mul_comm (2 ^ (q - 1)) den,
      roundQuotient_exact _ _ (Nat.mul_pos positive (Nat.two_pow_pos _))]
    omega

theorem nearestRank_tiny {num den : Nat} (small : 2 * num < den) : nearestRank num den = 0 := by
  have quotient : num / den = 0 := Nat.div_eq_of_lt (by omega)
  have remainder : num % den = num := Nat.mod_eq_of_lt (by omega)
  simp only [nearestRank, quotient, Nat.log2_zero, Nat.zero_sub, Nat.zero_mul, Nat.pow_zero,
    Nat.mul_one, roundQuotient, remainder, small, ↓reduceIte, Nat.add_zero]

theorem nearestRank_huge {num den bits : Nat} (positive : 0 < den) (many : 2098 ≤ bits)
    (large : den * 2 ^ bits ≤ num) : ranks ≤ nearestRank num den := by
  have quotient : 2 ^ bits ≤ num / den := by
    rw [Nat.le_div_iff_mul_le positive, Nat.mul_comm]
    exact large
  have nonzero : num / den ≠ 0 := Nat.ne_of_gt (Nat.lt_of_lt_of_le (Nat.two_pow_pos bits) quotient)
  have logarithm : bits ≤ (num / den).log2 := (Nat.le_log2 nonzero).mpr quotient
  have own : 2 ^ (num / den).log2 ≤ num / den := Nat.log2_self_le nonzero
  simp only [nearestRank]
  generalize (num / den).log2 = l at *
  obtain ⟨d, rfl⟩ : ∃ d, l = d + 52 := ⟨l - 52, by omega⟩
  rw [Nat.add_sub_cancel]
  have normal : 2 ^ (52 : Nat) ≤ num / (den * 2 ^ d) := by
    rw [← Nat.div_div_eq_div_mul, Nat.le_div_iff_mul_le (Nat.two_pow_pos d), ← Nat.pow_add,
      Nat.add_comm 52 d]
    exact own
  have rounded := div_le_roundQuotient num (den * 2 ^ d)
  have least : 2046 * 2 ^ (52 : Nat) ≤ d * 2 ^ (52 : Nat) := Nat.mul_le_mul_right _ (by omega)
  simp only [ranks]
  omega

end LambdaCalc.Binary64
