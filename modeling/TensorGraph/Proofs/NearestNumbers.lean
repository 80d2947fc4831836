import Mathlib.Algebra.Order.Field.Basic
import Mathlib.Data.Int.Log
import Mathlib.Data.Rat.Floor
import Mathlib.Tactic.NormNum
import Mathlib.Tactic.Positivity
import Mathlib.Tactic.Ring
import Mathlib.Tactic.SplitIfs
import TensorGraph.Number.Binary32

set_option autoImplicit false

namespace TensorGraph

section Ratios

variable (numerator denominator factor : Nat)

theorem power_split (e : Int) : (2 : ℚ) ^ e = 2 ^ e.toNat / 2 ^ (-e).toNat := by
  rw [← zpow_natCast, ← zpow_natCast, ← zpow_sub₀ (by norm_num : (2 : ℚ) ≠ 0)]
  exact congrArg _ (by omega)

theorem below_power_iff (e : Int) (proper : 0 < denominator) :
    numerator * Nat.pow 2 (-e).toNat < denominator * Nat.pow 2 e.toNat ↔
      (numerator / denominator : ℚ) < 2 ^ e := by
  have positive : (0 : ℚ) < denominator := Nat.cast_pos.mpr proper
  rw [power_split, div_lt_div_iff₀ positive (by positivity), mul_comm ((2 : ℚ) ^ e.toNat)]
  exact_mod_cast Iff.rfl

theorem ratio_bounds (positive : 0 < numerator) (proper : 0 < denominator) :
    (2 : ℚ) ^ ((numerator.log2 : Int) - denominator.log2 - 1) ≤ numerator / denominator ∧
      (numerator / denominator : ℚ) < 2 ^ ((numerator.log2 : Int) - denominator.log2 + 1) := by
  have two : (2 : ℚ) ≠ 0 := by norm_num
  have least : (2 : ℚ) ^ numerator.log2 ≤ numerator := by exact_mod_cast Nat.log2_self_le positive.ne'
  have most : (numerator : ℚ) < 2 ^ (numerator.log2 + 1) := by exact_mod_cast Nat.lt_log2_self
  have leastBelow : (2 : ℚ) ^ denominator.log2 ≤ denominator := by
    exact_mod_cast Nat.log2_self_le proper.ne'
  have mostBelow : (denominator : ℚ) < 2 ^ (denominator.log2 + 1) := by exact_mod_cast Nat.lt_log2_self
  constructor
  · rw [sub_sub, zpow_sub₀ two]
    exact_mod_cast div_le_div₀ (by positivity) least (by positivity) mostBelow.le
  · rw [sub_add_eq_add_sub, zpow_sub₀ two]
    exact_mod_cast div_lt_div₀ most leastBelow (by positivity) (by positivity)

theorem binary_exponent_log (positive : 0 < numerator) (proper : 0 < denominator) :
    binaryExponent numerator denominator = Int.log 2 (numerator / denominator : ℚ) := by
  have ratio : (0 : ℚ) < numerator / denominator :=
    div_pos (Nat.cast_pos.mpr positive) (Nat.cast_pos.mpr proper)
  obtain ⟨least, most⟩ := ratio_bounds numerator denominator positive proper
  have low := (Int.zpow_le_iff_le_log Nat.one_lt_two ratio).mp least
  have high := (Int.lt_zpow_iff_log_lt Nat.one_lt_two ratio).mp most
  dsimp only [binaryExponent]
  by_cases below : (numerator / denominator : ℚ) < 2 ^ ((numerator.log2 : Int) - denominator.log2)
  · rw [if_pos ((below_power_iff _ _ _ proper).mpr below)]
    have under := (Int.lt_zpow_iff_log_lt Nat.one_lt_two ratio).mp below
    omega
  · rw [if_neg (mt (below_power_iff _ _ _ proper).mp below)]
    have above := (Int.zpow_le_iff_le_log Nat.one_lt_two ratio).mp (not_lt.mp below)
    omega

theorem binary_exponent_scaled (positive : 0 < numerator) (proper : 0 < denominator)
    (scales : 0 < factor) :
    binaryExponent (factor * numerator) (factor * denominator) =
      binaryExponent numerator denominator := by
  rw [binary_exponent_log _ _ positive proper,
    binary_exponent_log _ _ (Nat.mul_pos scales positive) (Nat.mul_pos scales proper),
    Nat.cast_mul, Nat.cast_mul,
    mul_div_mul_left _ _ (Nat.cast_ne_zero.mpr scales.ne')]

theorem rounded_quotient_scaled (scales : 0 < factor) :
    roundedQuotient (factor * numerator) (factor * denominator) =
      roundedQuotient numerator denominator := by
  simp only [roundedQuotient, Nat.mul_div_mul_left _ _ scales, Nat.mul_mod_mul_left,
    Nat.mul_left_comm 2 factor, Nat.mul_lt_mul_left scales, Nat.mul_right_inj scales.ne']

theorem rounded_quotient_exact (quotient : Nat) (proper : 0 < denominator) :
    roundedQuotient (quotient * denominator) denominator = quotient := by
  simp [roundedQuotient, proper]

theorem rounded_quotient_le (limit : Nat) (proper : 0 < denominator)
    (within : numerator ≤ limit * denominator) :
    roundedQuotient numerator denominator ≤ limit := by
  have split := Nat.div_add_mod numerator denominator
  have quotient : numerator / denominator ≤ limit := Nat.div_le_of_le_mul (Nat.mul_comm limit _ ▸ within)
  dsimp only [roundedQuotient]
  rcases Nat.lt_or_eq_of_le quotient with below | exact
  · split_ifs
    · omega
    · omega
    · omega
  · rw [exact] at split ⊢
    have nothing : numerator % denominator = 0 := by
      rw [Nat.mul_comm] at split
      omega
    rw [nothing, if_pos (by omega)]

end Ratios

namespace BinaryFormat

section Patterns

variable (format : BinaryFormat) (numerator denominator factor pattern : Nat)

theorem scale_pos : 0 < format.scale := Nat.two_pow_pos format.scaleBits

theorem nearest_scaled (proper : 0 < denominator) (scales : 0 < factor) :
    format.nearest (factor * numerator) (factor * denominator) =
      format.nearest numerator denominator := by
  rcases Nat.eq_zero_or_pos numerator with rfl | positive
  · rfl
  · have exponent := binary_exponent_scaled numerator denominator factor positive proper scales
    simp only [nearest, shiftOf, exponent, Nat.mul_assoc factor, rounded_quotient_scaled _ _ _ scales]
    rw [if_neg (Nat.mul_pos scales positive).ne', if_neg positive.ne']

theorem binary_exponent_of_units (bits : Nat) (positive : 0 < numerator) :
    binaryExponent numerator (Nat.pow 2 bits) = (numerator.log2 : Int) - bits := by
  have least := Nat.log2_self_le positive.ne'
  simp only [binaryExponent, Nat.pow_eq, Nat.log2_two_pow]
  refine if_neg (Nat.not_lt.mpr ?_)
  rw [← Nat.pow_add]
  by_cases large : bits ≤ numerator.log2
  · have up : (-((numerator.log2 : Int) - bits)).toNat = 0 := by omega
    have down : bits + ((numerator.log2 : Int) - bits).toNat = numerator.log2 := by omega
    rw [up, down]
    omega
  · have up : (-((numerator.log2 : Int) - bits)).toNat = bits - numerator.log2 := by omega
    have down : bits + ((numerator.log2 : Int) - bits).toNat = numerator.log2 +
        (bits - numerator.log2) := by omega
    rw [up, down, Nat.pow_add]
    exact Nat.mul_le_mul_right _ least

theorem shift_of_units (other : BinaryFormat) (positive : 0 < numerator) :
    format.shiftOf numerator other.scale =
    ((numerator.log2 : Int) - other.scaleBits - format.fractionBits + format.scaleBits).toNat := by
  rw [shiftOf, scale, binary_exponent_of_units numerator other.scaleBits positive]

theorem shift_of_own_units (positive : 0 < numerator) :
    format.shiftOf numerator format.scale = numerator.log2 - format.fractionBits := by
  rw [shift_of_units format numerator format positive]
  omega

theorem nearest_of_shift (quotient : Nat) (positive : 0 < numerator)
    (multiple : numerator = quotient * 2 ^ (numerator.log2 - format.fractionBits)) :
    format.nearest numerator format.scale =
      min ((numerator.log2 - format.fractionBits) * 2 ^ format.fractionBits +
        quotient) format.infinity := by
  have whole : numerator * Nat.pow 2 format.scaleBits =
      quotient * (format.scale * Nat.pow 2 (numerator.log2 - format.fractionBits)) := by
    rw [Nat.mul_comm format.scale, ← Nat.mul_assoc]
    exact congrArg (· * format.scale) multiple
  have exact :=
    rounded_quotient_exact (format.scale * Nat.pow 2 (numerator.log2 - format.fractionBits)) quotient
    (Nat.mul_pos (scale_pos format) (Nat.two_pow_pos _))
  simp only [nearest, shift_of_own_units format numerator positive, whole, exact]
  rw [if_neg positive.ne']
  rfl

theorem nearest_units : format.nearest (format.units pattern) format.scale =
    min pattern format.infinity := by
  rcases Nat.eq_zero_or_pos pattern with rfl | positive
  · simp [units, nearest]
  · by_cases small : pattern < 2 ^ format.fractionBits
    · have same : format.units pattern = pattern := if_pos small
      have unshifted : pattern.log2 - format.fractionBits = 0 := by
        have few := (Nat.log2_lt positive.ne').mpr small
        omega
      rw [same, nearest_of_shift format pattern pattern positive (by simp [unshifted]),
        unshifted, Nat.zero_mul, Nat.zero_add]
    · have split := Nat.div_add_mod pattern (2 ^ format.fractionBits)
      have above : 0 < pattern / 2 ^ format.fractionBits :=
        Nat.div_pos (not_lt.mp small) (Nat.two_pow_pos _)
      obtain ⟨shift, shifted⟩ := Nat.exists_eq_add_one.mpr above
      have fraction := Nat.mod_lt pattern (Nat.two_pow_pos format.fractionBits)
      have same : format.units pattern =
          (2 ^ format.fractionBits + pattern % 2 ^ format.fractionBits) * 2 ^ shift := by
        simp only [units, Nat.pow_eq, if_neg small, shifted, Nat.add_sub_cancel]
      generalize pattern % 2 ^ format.fractionBits = rest at split fraction same
      have leading : ((2 ^ format.fractionBits + rest) * 2 ^ shift).log2 =
          format.fractionBits + shift := by
        refine (Nat.log2_eq_iff (Nat.mul_pos (by omega) (Nat.two_pow_pos shift)).ne').mpr ⟨?_, ?_⟩
        · rw [Nat.pow_add]
          exact Nat.mul_le_mul_right _ (Nat.le_add_right _ _)
        · rw [Nat.add_right_comm, Nat.pow_add _ _ shift, Nat.pow_succ]
          exact Nat.mul_lt_mul_of_pos_right (by omega) (Nat.two_pow_pos shift)
      have amount : (format.fractionBits + shift) - format.fractionBits = shift := by omega
      rw [same, nearest_of_shift format _ (2 ^ format.fractionBits + rest)
        (Nat.mul_pos (by omega) (Nat.two_pow_pos shift))
        (by rw [leading, amount]), leading, amount]
      rw [shifted, Nat.mul_comm, Nat.succ_mul] at split
      omega

theorem significand_within (positive : 0 < numerator) (proper : 0 < denominator) :
    numerator * 2 ^ format.scaleBits ≤
      2 ^ (format.fractionBits + 1) * (denominator * 2 ^ format.shiftOf numerator denominator) := by
  have ratio : (0 : ℚ) < denominator := Nat.cast_pos.mpr proper
  have above : (numerator / denominator : ℚ) < 2 ^ (binaryExponent numerator denominator + 1) := by
    rw [binary_exponent_log numerator denominator positive proper]
    exact_mod_cast Int.lt_zpow_succ_log_self Nat.one_lt_two (numerator / denominator : ℚ)
  have reached : binaryExponent numerator denominator + 1 ≤
      ((format.shiftOf numerator denominator + format.fractionBits +
        1 : Nat) : Int) - format.scaleBits := by
    have shift : format.shiftOf numerator denominator =
      (binaryExponent numerator denominator - format.fractionBits + format.scaleBits).toNat := rfl
    omega
  have bounded := above.trans_le (zpow_le_zpow_right₀ one_le_two reached)
  rw [zpow_sub₀ two_ne_zero, zpow_natCast, zpow_natCast, div_lt_div_iff₀ ratio (by positivity)]
    at bounded
  have whole : numerator * 2 ^ format.scaleBits <
      2 ^ (format.shiftOf numerator denominator + format.fractionBits + 1) * denominator := by
    exact_mod_cast bounded
  calc
    numerator * 2 ^ format.scaleBits ≤
        2 ^ (format.shiftOf numerator denominator + format.fractionBits + 1) * denominator := whole.le
    _ = 2 ^ (format.fractionBits + 1) * (denominator * 2 ^ format.shiftOf numerator denominator) := by
      ring

theorem nearest_le (proper : 0 < denominator) : format.nearest numerator denominator ≤
    format.shiftOf numerator denominator * 2 ^ format.fractionBits + 2 ^ (format.fractionBits + 1) := by
  rcases Nat.eq_zero_or_pos numerator with rfl | positive
  · simp [nearest]
  · have significand := rounded_quotient_le (numerator * 2 ^ format.scaleBits)
      (denominator * 2 ^ format.shiftOf numerator denominator) (2 ^ (format.fractionBits + 1))
      (Nat.mul_pos proper (Nat.two_pow_pos _))
        (significand_within format numerator denominator positive proper)
    rw [nearest, if_neg positive.ne']
    exact (Nat.min_le_left _ _).trans (Nat.add_le_add_left significand _)

end Patterns

end BinaryFormat

end TensorGraph
