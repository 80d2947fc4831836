import TensorGraph.Proofs.ElementCounts
import TensorGraph.Proofs.ParameterSizes

set_option autoImplicit false

namespace TensorGraph

section Sizes

variable (type : TensorType)

theorem empty_size_iff : type.size = 0 ↔ (0 : Extent) ∈ type.dims := by
  have size := size_capped type
  rw [← product_zero_iff, ← UInt64.toNat_inj, size, UInt64.toNat_zero]
  have cap : UInt64.size - 1 ≠ 0 := by decide
  omega

theorem reordered_size (other : TensorType) (reordered : type.dims.Perm other.dims) :
    type.size = other.size := by
  rw [← UInt64.toNat_inj, size_capped, size_capped, product_of_reordered _ _ reordered]

theorem counted_size (count : Extent) (counted : type.size? = some count) : type.size = count :=
  (size_iff type count).mpr (.inl ((counted_iff type.dims count).mp counted).2.symm)

-- Where no count is given the size is that of a zero that came late, or else the cap.
theorem uncounted_size (uncounted : type.size? = none) :
    type.size = if (0 : Extent) ∈ type.dims then 0 else Extent.largest := by
  by_cases empty : (0 : Extent) ∈ type.dims
  · rw [if_pos empty]
    exact (empty_size_iff type).mpr empty
  · rw [if_neg empty]
    have exceeds := ((uncounted_iff type.dims).mp uncounted).resolve_left fun late => empty late.1
    exact (size_iff type Extent.largest).mpr (.inr ⟨rfl, exceeds⟩)

end Sizes

-- A size is the exact product of the extents, or the cap if the product is larger. So a zero counts
-- wherever it stands, also behind extents that have reached the cap.
theorem sizes_are_capped_products (type : TensorType) :
    type.size.toNat = min type.dims.product (UInt64.size - 1) ∧
      (∀ other : TensorType, type.dims.Perm other.dims → type.size = other.size) ∧
      (∀ count, type.size? = some count → type.size = count) ∧
      (type.size? = none → type.size = if (0 : Extent) ∈ type.dims then 0 else Extent.largest) :=
  ⟨size_capped type, reordered_size type, counted_size type, uncounted_size type⟩

-- The zero stands behind extents whose product is 2 ^ 65, and the one in front of the same extents is
-- counted.
theorem late_zero_empties_a_size :
    let late : TensorType := .plain .float [9223372036854775808, 4, 0, 1]
    let early : TensorType := .plain .index [0, 1, 4, 9223372036854775808]
    late.size.toNat = 0 ∧ late.size? = none ∧ early.size? = some 0 ∧ early.size = 0 ∧
      late.size = early.size := by
  intro late early
  have uncounted : late.size? = none := by decide +kernel
  have counted : early.size? = some 0 := by decide +kernel
  obtain ⟨exact, ordered, _, _⟩ := sizes_are_capped_products late
  obtain ⟨_, _, agrees, _⟩ := sizes_are_capped_products early
  have reordered : late.dims.Perm early.dims := by decide +kernel
  exact ⟨exact.trans (by decide +kernel), uncounted, counted, agrees 0 counted, ordered early reordered⟩

end TensorGraph
