import TensorGraph.Proofs.NearestNumbers

set_option autoImplicit false

namespace TensorGraph

-- Nothing can be left out of the coefficient.
def Decimal.IsReduced (d : Decimal) : Prop := d.coefficient % 10 ≠ 0 ∨ d = ⟨0, 0⟩

section Digits

variable (n coefficient : Nat) (exponent : Int)

theorem digits_end_zero (positive : 0 < n) : decimalDigits (10 * n) = decimalDigits n ++ ['0'] := by
  have tens : 10 * n / 10 = n := by omega
  have ones : 10 * n % 10 = 0 := by omega
  rw [decimalDigits, decimalDigits, Nat.toDigits_of_base_le (by decide) (by omega), tens, ones]
  rfl

theorem digit_count_le_iff (limit : Nat) (positive : 0 < limit) :
    (decimalDigits n).length ≤ limit ↔ n < 10 ^ limit := Nat.length_toDigits_le_iff (by decide) positive

theorem leading_exponent_shifted (positive : 0 < coefficient) :
    Decimal.leadingExponent ⟨10 * coefficient, exponent⟩ =
      Decimal.leadingExponent ⟨coefficient, exponent + 1⟩ := by
  simp only [Decimal.leadingExponent, Decimal.digits, digits_end_zero coefficient positive,
    List.length_append, List.length_singleton]
  omega

theorem trimmed_shifted (positive : 0 < coefficient) :
    Decimal.trimmed (10 * coefficient) exponent = Decimal.trimmed coefficient (exponent + 1) := by
  have tens : 10 * coefficient / 10 = coefficient := by omega
  rw [Decimal.trimmed, if_pos (by omega), tens]

theorem trimmed_reduced (positive : 0 < coefficient) :
    (Decimal.trimmed coefficient exponent).coefficient % 10 ≠ 0 := by
  induction coefficient, exponent using Decimal.trimmed.induct with
  | case1 coefficient exponent ends ih =>
      rw [Decimal.trimmed, if_pos ends]
      exact ih (by omega)
  | case2 coefficient exponent ends =>
      rw [Decimal.trimmed, if_neg ends]
      exact fun none => ends ⟨positive.ne', none⟩

-- A number that cannot be trimmed is found again behind any number of zeros.
theorem reduced_padded (d : Decimal) (zeros : Nat) (reduced : d.IsReduced) :
    Decimal.reduced (d.coefficient * 10 ^ zeros) (d.exponent - zeros) = d := by
  rcases reduced with whole | rfl
  · have positive : 0 < d.coefficient := by omega
    rw [Decimal.reduced, if_neg (Nat.mul_pos positive (Nat.pow_pos (by decide))).ne']
    induction zeros with
    | zero =>
        rw [Decimal.trimmed, if_neg (by omega)]
        simp
    | succ zeros ih =>
        have next : d.exponent - (zeros + 1 : Nat) + 1 = d.exponent - zeros := by omega
        rw [Nat.pow_succ', Nat.mul_left_comm,
          trimmed_shifted _ _ (Nat.mul_pos positive (Nat.pow_pos (by decide))), next]
        exact ih
  · simp [Decimal.reduced]

end Digits

namespace BinaryFormat

section Decimals

variable (format : BinaryFormat) (coefficient pattern : Nat) (exponent : Int)

theorem nearest_decimal_shifted (positive : 0 < coefficient) :
    format.nearestDecimal ⟨10 * coefficient, exponent⟩ =
      format.nearestDecimal ⟨coefficient, exponent + 1⟩ := by
  have ratio : format.nearest (Decimal.numerator ⟨10 * coefficient, exponent⟩)
      (Decimal.denominator ⟨10 * coefficient, exponent⟩) =
      format.nearest (Decimal.numerator ⟨coefficient, exponent + 1⟩)
        (Decimal.denominator ⟨coefficient, exponent + 1⟩) := by
    simp only [Decimal.numerator, Decimal.denominator, Nat.pow_eq]
    by_cases whole : 0 ≤ exponent
    · have places : (-exponent).toNat = 0 ∧ (-(exponent + 1)).toNat = 0 := by omega
      have zeros : (exponent + 1).toNat = exponent.toNat + 1 := by omega
      rw [places.1, places.2, zeros, Nat.pow_succ', Nat.mul_comm 10 coefficient, Nat.mul_assoc]
    · have places : (-exponent).toNat = (-(exponent + 1)).toNat + 1 := by omega
      have zeros : exponent.toNat = 0 ∧ (exponent + 1).toNat = 0 := by omega
      rw [zeros.1, zeros.2, places, Nat.pow_succ', Nat.mul_assoc]
      exact nearest_scaled format _ _ 10 (Nat.pow_pos (by decide)) (by decide)
  simp only [nearestDecimal, leading_exponent_shifted coefficient exponent positive, ratio]
  rw [if_neg (Nat.mul_pos (by decide) positive).ne', if_neg positive.ne']

theorem nearest_decimal_trimmed :
    format.nearestDecimal (Decimal.trimmed coefficient exponent) =
      format.nearestDecimal ⟨coefficient, exponent⟩ := by
  induction coefficient, exponent using Decimal.trimmed.induct with
  | case1 coefficient exponent ends ih =>
      have tens : 10 * (coefficient / 10) = coefficient := by omega
      rw [Decimal.trimmed, if_pos ends, ih, ← nearest_decimal_shifted format _ _ (by omega), tens]
  | case2 coefficient exponent ends => rw [Decimal.trimmed, if_neg ends]

theorem decimal_at_reads_back (tie : Tie) (place : Int) (d : Decimal)
    (found : format.decimalAt? tie pattern place = some d) : format.nearestDecimal d = pattern := by
  dsimp only [decimalAt?] at found
  split at found
  · cases found
  · rename_i below _
    cases found
    exact eq_of_beq below
  · rename_i _ above
    cases found
    exact eq_of_beq above
  · rename_i below above
    -- Halfway between two decimal numbers that both read back, either will do.
    generalize format.units pattern *
      Nat.pow 10 (-place).toNat / (format.scale * Nat.pow 10 place.toNat) = lower at *
    have either : d = ⟨lower, place⟩ ∨ d = ⟨lower + 1, place⟩ := by
      split_ifs at found
      · exact .inl (Option.some.inj found).symm
      · exact .inr (Option.some.inj found).symm
      · cases tie with
        | up => exact .inr (Option.some.inj found).symm
        | even =>
            rcases Nat.mod_two_eq_zero_or_one lower with even | odd
            · rw [even] at found
              exact .inl (Option.some.inj found).symm
            · rw [odd] at found
              exact .inr (Option.some.inj found).symm
    rcases either with rfl | rfl
    · exact eq_of_beq below
    · exact eq_of_beq above

theorem first_decimal_reads_back (tie : Tie) (place : Int) (tries : Nat) (d : Decimal)
    (found : format.firstDecimal? tie pattern place tries = some d) :
      format.nearestDecimal d = pattern := by
  induction tries generalizing place with
  | zero => cases found
  | succ tries ih =>
      rw [firstDecimal?] at found
      split at found
      · rename_i here
        cases found
        exact decimal_at_reads_back format pattern tie place d here
      · exact ih (place - 1) found

theorem units_lt (limit : Nat) (below : pattern < (limit + 2) * 2 ^ format.fractionBits) :
    format.units pattern < 2 ^ (format.fractionBits + 1 + limit) := by
  rw [Nat.pow_add]
  have room := Nat.two_pow_pos format.fractionBits
  have most : 2 ^ (format.fractionBits + 1) * 1 ≤ 2 ^ (format.fractionBits + 1) * 2 ^ limit :=
    Nat.mul_le_mul_left _ (Nat.two_pow_pos limit)
  simp only [units, Nat.pow_eq]
  split_ifs with small
  · omega
  · have shift : pattern / 2 ^ format.fractionBits - 1 ≤ limit := by
      have quotient := (Nat.div_lt_iff_lt_mul room).mpr below
      omega
    have fraction := Nat.mod_lt pattern room
    calc
      (2 ^ format.fractionBits + pattern % 2 ^ format.fractionBits) *
        2 ^ (pattern / 2 ^ format.fractionBits - 1) <
          2 ^ (format.fractionBits + 1) * 2 ^ (pattern / 2 ^ format.fractionBits - 1) :=
        Nat.mul_lt_mul_of_pos_right (by omega) (Nat.two_pow_pos _)
      _ ≤ 2 ^ (format.fractionBits + 1) * 2 ^ limit :=
        Nat.mul_le_mul_left _ (Nat.pow_le_pow_right (by decide) shift)

theorem units_pos (positive : 0 < pattern) : 0 < format.units pattern := by
  simp only [units, Nat.pow_eq]
  split_ifs with small
  · exact positive
  · exact Nat.mul_pos (Nat.add_pos_left (Nat.two_pow_pos _) _) (Nat.two_pow_pos _)

theorem nearest_decimal_in_reach (d : Decimal) (positive : 0 < d.coefficient)
    (reached : -decimalReach ≤ d.leadingExponent ∧ d.leadingExponent ≤ decimalReach) :
    format.nearestDecimal d = format.nearest d.numerator d.denominator := by
  rw [nearestDecimal, if_neg positive.ne', if_neg (by omega), if_neg (by omega)]

end Decimals

section Single

variable (pattern : Nat) (finite : pattern < single.infinity)

include finite

theorem exact_decimal_reads_back (positive : 0 < pattern) :
    single.nearestDecimal (single.exactDecimal pattern) = pattern := by
  have size := units_lt single pattern 253 finite
  rw [Nat.pow_add] at size
  have some : 0 < single.units pattern := units_pos single pattern positive
  have coefficient : 0 < single.units pattern * 5 ^ 149 := Nat.mul_pos some (by decide)
  have most : (decimalDigits (single.units pattern * 5 ^ 149)).length ≤ 200 := by
    rw [digit_count_le_iff _ 200 (by decide)]
    calc
      single.units pattern * 5 ^ 149 < 2 ^ (single.fractionBits + 1) * 2 ^ 253 * 5 ^ 149 :=
        Nat.mul_lt_mul_of_pos_right size (by decide)
      _ < 10 ^ 200 := by decide
  have least : 0 < (decimalDigits (single.units pattern * 5 ^ 149)).length := Nat.length_toDigits_pos
  have leading : (single.exactDecimal pattern).leadingExponent =
      -149 + ((decimalDigits (single.units pattern * 5 ^ 149)).length : Int) - 1 := rfl
  have reached : -decimalReach ≤ (single.exactDecimal pattern).leadingExponent ∧
      (single.exactDecimal pattern).leadingExponent ≤ decimalReach := by
    rw [leading, decimalReach]
    omega
  have above : (single.exactDecimal pattern).numerator = 5 ^ 149 * single.units pattern :=
    (Nat.mul_one _).trans (Nat.mul_comm ..)
  have below : (single.exactDecimal pattern).denominator = 5 ^ 149 * single.scale := by
    exact Nat.mul_pow 5 2 149
  rw [nearest_decimal_in_reach single _ coefficient reached, above, below,
    nearest_scaled single _ single.scale _ (scale_pos single) (by decide), nearest_units,
      Nat.min_eq_left finite.le]

theorem shortest_decimal_reads_back (tie : Tie) :
    single.nearestDecimal (single.shortestDecimal tie pattern) = pattern ∧
    (single.shortestDecimal tie pattern).IsReduced := by
  rcases Nat.eq_zero_or_pos pattern with rfl | positive
  · exact ⟨rfl, .inr rfl⟩
  · have back : single.nearestDecimal ((single.firstDecimal? tie pattern
        (decimalExponent (single.units pattern) single.scale) 17).getD
          (single.exactDecimal pattern)) = pattern := by
      cases found : single.firstDecimal? tie pattern
        (decimalExponent (single.units pattern) single.scale) 17 with
      | none => exact exact_decimal_reads_back pattern finite positive
      | some d => exact first_decimal_reads_back single pattern tie _ 17 d found
    simp only [shortestDecimal, if_neg positive.ne']
    generalize (single.firstDecimal? tie pattern
      (decimalExponent (single.units pattern) single.scale) 17).getD
      (single.exactDecimal pattern) = d at back
    have some : 0 < d.coefficient := by
      refine Nat.pos_of_ne_zero fun none => ?_
      rw [nearestDecimal, if_pos none] at back
      omega
    exact ⟨(nearest_decimal_trimmed single d.coefficient d.exponent).trans back,
      .inl (trimmed_reduced d.coefficient d.exponent some)⟩

end Single

end BinaryFormat

namespace Binary32

theorem own_parts (x : Binary32) : ofMagnitude x.isNegative x.magnitude = x := by
  obtain ⟨bits⟩ := x
  have weight : signWeight = 2147483648 := rfl
  have range := bits.toNat_lt
  simp only [ofMagnitude, isNegative, magnitude, mk.injEq, ← UInt32.toNat_inj, UInt32.toNat_ofNat',
    decide_eq_true_iff]
  split_ifs with negative
  · rw [weight] at negative ⊢
    omega
  · rw [weight] at negative ⊢
    omega

theorem magnitude_of (negative : Bool) (magnitude : Nat) (fits : magnitude < signWeight) :
    (ofMagnitude negative magnitude).magnitude = magnitude := by
  have weight : signWeight = 2147483648 := rfl
  simp only [ofMagnitude, Binary32.magnitude, UInt32.toNat_ofNat', weight] at fits ⊢
  split_ifs
  · omega
  · omega

theorem of_magnitude_finite (negative : Bool) (magnitude : Nat)
    (finite : magnitude < BinaryFormat.single.infinity) :
    (ofMagnitude negative magnitude).isFinite = true := by
  rw [isFinite, magnitude_of negative magnitude (finite.trans (by decide))]
  exact decide_eq_true finite

theorem own_decimal (x : Binary32) (tie : Tie) (finite : x.isFinite = true) :
    ofDecimal? x.isNegative (BinaryFormat.single.shortestDecimal tie x.magnitude) = some x := by
  have small := of_decide_eq_true finite
  simp only [ofDecimal?, (BinaryFormat.shortest_decimal_reads_back x.magnitude small tie).1]
  rw [if_pos small, own_parts]

theorem of_decimal_finite (negative : Bool) (d : Decimal) (x : Binary32)
    (read : ofDecimal? negative d = some x) :
    x.isFinite = true := by
  dsimp only [ofDecimal?] at read
  split_ifs at read with finite
  rw [← Option.some.inj read]
  exact of_magnitude_finite negative _ finite

theorem word_through_double (n : Nat) (word : n < 2 ^ 64) :
    BinaryFormat.double.nearestDecimal ⟨n, 0⟩ < (1086 + 2) * 2 ^ 52 := by
  rcases Nat.eq_zero_or_pos n with rfl | positive
  · decide
  · have least : 0 < (decimalDigits n).length := Nat.length_toDigits_pos
    have most : (decimalDigits n).length ≤ 20 :=
      (digit_count_le_iff n 20 (by decide)).mpr (word.trans (by decide))
    have leading : Decimal.leadingExponent ⟨n, 0⟩ = 0 + ((decimalDigits n).length : Int) - 1 := rfl
    have reached : -decimalReach ≤ Decimal.leadingExponent ⟨n, 0⟩ ∧
        Decimal.leadingExponent ⟨n, 0⟩ ≤ decimalReach := by
      rw [leading, decimalReach]
      omega
    have size := (Nat.log2_lt positive.ne').mpr word
    have exponent : binaryExponent n 1 = (n.log2 : Int) - (0 : Nat) :=
      BinaryFormat.binary_exponent_of_units n 0 positive
    have shift : BinaryFormat.double.shiftOf n 1 ≤ 1085 := by
      have known : BinaryFormat.double.shiftOf n 1 = (binaryExponent n 1 - 52 + 1074).toNat := rfl
      omega
    have bound : BinaryFormat.double.nearest n 1 ≤ BinaryFormat.double.shiftOf n 1 * 2 ^ 52 + 2 ^ 53 :=
      BinaryFormat.nearest_le BinaryFormat.double n 1 Nat.one_pos
    have above : Decimal.numerator ⟨n, 0⟩ = n := Nat.mul_one n
    have below : Decimal.denominator ⟨n, 0⟩ = 1 := rfl
    rw [BinaryFormat.nearest_decimal_in_reach BinaryFormat.double ⟨n, 0⟩ positive reached, above, below]
    omega

-- Numbers of 64 bits are far from the largest single-precision number, also when they are rounded twice.
theorem through_double_finite (negative : Bool) (n : Nat) (word : n < 2 ^ 64) :
    (ofDecimalThroughDouble negative ⟨n, 0⟩).isFinite = true := by
  have wide := word_through_double n word
  have units := BinaryFormat.units_lt BinaryFormat.double _ 1086 wide
  have known : BinaryFormat.double.fractionBits = 52 ∧ BinaryFormat.double.scaleBits = 1074 ∧
      BinaryFormat.single.fractionBits = 23 ∧ BinaryFormat.single.scaleBits = 149 := ⟨rfl, rfl, rfl, rfl⟩
  simp only [ofDecimalThroughDouble]
  rw [if_pos (wide.trans (by decide))]
  refine of_magnitude_finite negative _ ?_
  generalize BinaryFormat.double.units (BinaryFormat.double.nearestDecimal ⟨n, 0⟩) = amount at units
  rcases Nat.eq_zero_or_pos amount with rfl | positive
  · exact Nat.lt_of_le_of_lt (Nat.le_refl 0) (by decide)
  · have size := (Nat.log2_lt positive.ne').mpr units
    have shift : BinaryFormat.single.shiftOf amount BinaryFormat.double.scale ≤ 190 := by
      rw [BinaryFormat.shift_of_units BinaryFormat.single amount BinaryFormat.double positive]
      omega
    have bound := BinaryFormat.nearest_le BinaryFormat.single amount BinaryFormat.double.scale
      (BinaryFormat.scale_pos BinaryFormat.double)
    have infinity : BinaryFormat.single.infinity = 255 * 2 ^ 23 := rfl
    rw [known.2.2.1] at bound
    omega

end Binary32

end TensorGraph
