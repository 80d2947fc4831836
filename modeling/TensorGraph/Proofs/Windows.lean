import Mathlib.Order.Interval.Set.Nat
import TensorGraph.Proofs.StrictShapes

set_option autoImplicit false

namespace TensorGraph

namespace Window

-- The window, moved on by some strides, still lies inside of the extent and the padding on both sides of
-- it.
def Lies (window : Window) (extent : Extent) (strides : Nat) : Prop :=
  strides * window.stride.toNat + window.kernel.toNat ≤ extent.toNat + 2 * window.pad.toNat

-- What is left of an extent: one entry for each place at which the window lies, as a number without
-- bound.
structure Leaves (window : Window) (extent rest : Extent) : Prop where
  count : {strides | window.Lies extent strides}.ncard = rest.toNat
  floor : rest.toNat = (extent.toNat + 2 *
    window.pad.toNat - window.kernel.toNat) / window.stride.toNat + 1
  positive : 1 ≤ rest.toNat

end Window

section Axis

variable (window : Window) (extent : Extent) (kernel : window.kernel ≠ 0) (stride : window.stride ≠ 0)
  (covered : window.kernel ≤ extent) (fits : window.pad.toNat * 2 + extent.toNat < UInt64.size)

include kernel stride covered fits

omit stride in
theorem span_exact : (window.span extent).toNat =
    (extent.toNat + 2 * window.pad.toNat - window.kernel.toNat) / window.stride.toNat + 1 := by
  have total := padded_total window extent fits
  have room : window.kernel.toNat ≤ (window.pad * 2 + extent).toNat :=
    total ▸ Nat.le_add_left_of_le (UInt64.le_iff_toNat_le.mp covered)
  rw [Window.span, positions_total window _ kernel room, total, Nat.mul_comm 2,
    Nat.add_comm extent.toNat]

theorem lies_iff (strides : Nat) : window.Lies extent strides ↔
    strides < (window.span extent).toNat := by
  have room : window.kernel.toNat ≤ extent.toNat + 2 * window.pad.toNat :=
    Nat.le_add_right_of_le (UInt64.le_iff_toNat_le.mp covered)
  have moves : 0 < window.stride.toNat :=
    Nat.pos_of_ne_zero fun none => stride (UInt64.toNat_inj.mp none)
  rw [span_exact window extent kernel covered fits, Nat.lt_succ_iff,
    Nat.le_div_iff_mul_le moves, Window.Lies]
  exact (Nat.le_sub_iff_add_le room).symm

theorem span_leaves : window.Leaves extent (window.span extent) := by
  have exact := span_exact window extent kernel covered fits
  have places : {strides | window.Lies extent strides} = Set.Iio (window.span extent).toNat :=
    Set.ext (lies_iff window extent kernel stride covered fits)
  refine ⟨?_, exact, ?_⟩
  · rw [places, Set.ncard_Iio_nat]
  · rw [exact]
    exact Nat.le_add_left 1 _

end Axis

theorem leaves_unique (window : Window) (extent rest other : Extent) (leaves : window.Leaves extent rest)
    (again : window.Leaves extent other) : rest = other :=
  UInt64.toNat_inj.mp (leaves.floor.trans again.floor.symm)

-- The steps that are taken unchecked can all be taken, and what they come to is what exact arithmetic
-- says.
theorem windows_are_counted_exactly (window : Window) (images : Images) :
    (Strict.windowOutput window images).outcome? = some (window.output images) ∧
    ((∃ extents, window.output images = .ok extents) ↔ window.Slides images.height images.width) ∧
    ∀ extents, window.output images = .ok extents ↔ window.Slides images.height images.width ∧
      window.Leaves images.height extents.1 ∧ window.Leaves images.width extents.2 := by
  have leaves : window.Slides images.height images.width →
      window.Leaves images.height (window.span images.height) ∧
        window.Leaves images.width (window.span images.width) :=
    fun slides => ⟨span_leaves window _ slides.kernel slides.stride slides.tall slides.paddedHeight,
      span_leaves window _ slides.kernel slides.stride slides.wide slides.paddedWidth⟩
  refine ⟨congrArg Strict.outcome? (Strict.window_output_refines window images), ?_, ?_⟩
  · simp only [window_output_iff, exists_and_left, exists_eq, and_true]
  · intro extents
    rw [window_output_iff]
    refine and_congr_right fun slides => ?_
    obtain ⟨tall, wide⟩ := leaves slides
    constructor
    · rintro rfl
      exact ⟨tall, wide⟩
    · intro ⟨height, width⟩
      exact Prod.ext (leaves_unique window _ _ _ height tall) (leaves_unique window _ _ _ width wide)

-- Padding that brings a single entry to the largest extent there is.
example : (⟨1, 1, 9223372036854775807⟩ : Window).output ⟨1, 1, 1, 1⟩ =
    .ok (18446744073709551615, 18446744073709551615) := by decide

end TensorGraph
