import Mathlib.Algebra.BigOperators.Group.List.Basic
import Mathlib.Data.List.TakeWhile
import TensorGraph.Proofs.ShownTypes

set_option autoImplicit false

namespace TensorGraph

namespace Dims

-- The extents in front of the first zero, which is as far as partial products grow.
def leading (dims : Dims) : Dims := dims.takeWhile (· != 0)

-- The extents in front of some zero alone come to more than 64 bits.
def LateZero (dims : Dims) : Prop := (0 : Extent) ∈ dims ∧ UInt64.size ≤ dims.leading.product

-- The answer that is asked of a count: the number of entries if it is below 2 ^ 64, and else none.
def Measures (dims : Dims) : Option Extent → Prop
  | some count => count.toNat = dims.product
  | none => UInt64.size ≤ dims.product

end Dims

theorem product_eq_prod (dims : Dims) : dims.product = (dims.map UInt64.toNat).prod := by
  induction dims with
  | nil => rfl
  | cons extent rest ih => rw [Dims.product, ih, List.map_cons, List.prod_cons]

theorem product_zero_iff (dims : Dims) : dims.product = 0 ↔ (0 : Extent) ∈ dims := by
  induction dims with
  | nil => exact iff_of_false Nat.one_ne_zero List.not_mem_nil
  | cons extent rest ih =>
      rw [Dims.product, Nat.mul_eq_zero, ih, List.mem_cons, ← UInt64.toNat_inj,
        UInt64.toNat_zero, eq_comm]

theorem product_of_reordered (dims other : Dims) (reordered : dims.Perm other) :
    dims.product = other.product := by
  rw [product_eq_prod, product_eq_prod]
  exact (reordered.map _).prod_eq

theorem leading_of_filled (dims : Dims) (filled : (0 : Extent) ∉ dims) : dims.leading = dims :=
  List.takeWhile_eq_self_iff.mpr fun _ listed => bne_iff_ne.mpr fun zero => filled (zero ▸ listed)

theorem leading_cons (extent : Extent) (rest : Dims) (filled : extent ≠ 0) :
    Dims.leading (extent :: rest) = extent :: rest.leading :=
  List.takeWhile_cons_of_pos (bne_iff_ne.mpr filled)

theorem leading_positive (dims : Dims) : 0 < dims.leading.product := by
  refine Nat.pos_of_ne_zero fun zero => ?_
  have passes := List.mem_takeWhile_imp ((product_zero_iff _).mp zero)
  exact bne_iff_ne.mp passes rfl

-- No product of the first few extents is larger than that of the leading ones.
theorem partial_product_le (dims : Dims) (i : Nat) :
    Dims.product (dims.take i) ≤ dims.leading.product := by
  induction dims generalizing i with
  | nil => rw [List.take_nil, Dims.leading, List.takeWhile_nil]
  | cons extent rest ih =>
      cases i with
      | zero =>
          rw [List.take_zero]
          exact leading_positive _
      | succ i =>
          rw [List.take_succ_cons]
          by_cases zero : extent = 0
          · rw [zero, Dims.product, UInt64.toNat_zero, Nat.zero_mul]
            exact Nat.zero_le _
          · rw [leading_cons extent rest zero]
            exact Nat.mul_le_mul_left _ (ih i)

theorem countable_unless_late (dims : Dims) :
    dims.Countable ↔ ¬ dims.LateZero ∧ dims.product < UInt64.size := by
  constructor
  · intro countable
    have taken := List.prefix_iff_eq_take.mp (List.takeWhile_prefix (l := dims) (· != 0))
    have whole := countable dims.length
    rw [List.take_length] at whole
    refine ⟨fun late => Nat.not_lt.mpr late.2 ?_, whole⟩
    rw [Dims.leading, taken]
    exact countable _
  · rintro ⟨timely, fits⟩ i
    refine Nat.lt_of_le_of_lt (partial_product_le dims i) ?_
    by_cases zero : (0 : Extent) ∈ dims
    · exact Nat.lt_of_not_le fun exceeds => timely ⟨zero, exceeds⟩
    · rwa [leading_of_filled dims zero]

theorem counted_iff (dims : Dims) (count : Extent) :
    dims.count? = some count ↔ ¬ dims.LateZero ∧ count.toNat = dims.product := by
  rw [count_exact_iff, countable_unless_late]
  constructor
  · rintro ⟨⟨timely, _⟩, exact⟩
    exact ⟨timely, exact⟩
  · rintro ⟨timely, exact⟩
    exact ⟨⟨timely, exact ▸ count.toNat_lt⟩, exact⟩

theorem uncounted_iff (dims : Dims) : dims.count? = none ↔ dims.LateZero ∨
    UInt64.size ≤ dims.product := by
  have refused : dims.count? = none ↔ ¬ dims.Countable := by
    rw [countable_iff, ← Option.ne_none_iff_exists', not_not]
  rw [refused, countable_unless_late, not_and_or, not_not, Nat.not_lt]

theorem count_fault_iff (dims : Dims) (fault : ShapeFault) :
    dims.count = .error fault ↔ dims.count? = none ∧ fault = .uncountable dims := by
  unfold Dims.count
  cases dims.count? with
  | none => simp [eq_comm]
  | some found => simp

-- Shapes without entries that are said to have too many.
theorem late_zero_iff (dims : Dims) : dims.LateZero ↔ dims.product = 0 ∧ dims.count? = none := by
  rw [uncounted_iff]
  constructor
  · exact fun late => ⟨(product_zero_iff dims).mpr late.1, .inl late⟩
  · rintro ⟨zero, late | exceeds⟩
    · exact late
    · rw [zero] at exceeds
      exact absurd exceeds (by decide)

theorem measures_iff (dims : Dims) : dims.Measures dims.count? ↔ ¬ dims.LateZero := by
  rw [late_zero_iff]
  cases counted : dims.count? with
  | some count => exact iff_of_true ((counted_iff dims count).mp counted).2 fun late => nomatch late.2
  | none =>
      rw [and_iff_left rfl, Dims.Measures]
      constructor
      · intro exceeds zero
        rw [zero] at exceeds
        exact absurd exceeds (by decide)
      · intro filled
        exact ((uncounted_iff dims).mp counted).resolve_left fun late =>
          filled ((late_zero_iff dims).mp late).1

theorem reordered_counts_iff (dims other : Dims) (reordered : dims.Perm other) :
    dims.count? = other.count? ↔ (dims.LateZero ↔ other.LateZero) := by
  have same := product_of_reordered dims other reordered
  constructor
  · intro agree
    rw [late_zero_iff, late_zero_iff, same, agree]
  · intro alike
    refine Option.ext fun count => ?_
    rw [counted_iff, counted_iff, alike, same]

theorem reshape_drafted_iff (scope : Scope) (label : String) (input : Edge) (dims : Dims) :
    (∃ draft, scope.draft label (.reshape input dims) = .ok draft) ↔
      ∃ types, List.Forall₂ scope.Yields [input] types ∧
      ∃ type, types = [type] ∧ ∃ count, dims.count? = some count ∧ type.dims.count? = some count := by
  simp only [Scope.draft, bind_ok_iff, some_unit_iff, operand_iff, shaped_ok_iff, count_iff,
    require_ok_iff]
  constructor
  · rintro ⟨_, type, typed, count, wanted, _, given, rfl, _⟩
    exact ⟨[type], .cons typed .nil, type, rfl, count, wanted, given⟩
  · rintro ⟨_, typed, type, rfl, count, wanted, given⟩
    exact ⟨_, type, (List.forall₂_cons.mp typed).1, count, wanted, count, given, rfl, rfl⟩

theorem equal_counts_iff (dims other : Dims) :
    (∃ count, dims.count? = some count ∧ other.count? = some count) ↔
    (¬ dims.LateZero ∧ ¬ other.LateZero) ∧ dims.product = other.product ∧
      dims.product < UInt64.size := by
  simp only [counted_iff]
  constructor
  · rintro ⟨count, ⟨timely, exact⟩, otherTimely, same⟩
    exact ⟨⟨timely, otherTimely⟩, exact.symm.trans same, exact ▸ count.toNat_lt⟩
  · rintro ⟨⟨timely, otherTimely⟩, same, fits⟩
    have exact : (UInt64.ofNat dims.product).toNat = dims.product := Nat.mod_eq_of_lt fits
    exact ⟨_, ⟨timely, exact⟩, otherTimely, exact.trans same⟩

theorem reshape_added_iff (network : Network) (kept : network.Represented) (id : FunctionId)
    (label : String) (input : Edge)
    (dims : Dims) : (∃ made, (network.addLayer id label (.reshape input dims)).1 = .ok made) ↔
      ∃ type, network.Shows id input type ∧ ∃ count, dims.count? = some count ∧
        type.dims.count? = some count := by
  have spared : ∀ scope result, ¬ (Layer.reshape input dims).Unscaled scope result :=
    fun _ _ unscaled => by cases unscaled
  rw [layer_accepted_iff network kept id label _ spared [input] (List.cons_ne_nil _ _) _
    fun scope => reshape_drafted_iff scope label input dims]
  constructor
  · rintro ⟨_, shown, type, rfl, counted⟩
    exact ⟨type, (List.forall₂_cons.mp shown).1, counted⟩
  · rintro ⟨type, shown, counted⟩
    exact ⟨[type], .cons shown .nil, type, rfl, counted⟩

-- Counts are exact, but for shapes in which a zero comes too late: those have no entries and are said to
-- have too many. The order of the extents makes a difference for such shapes only, and they can neither
-- be reshaped nor be a target.
theorem counts_are_exact_unless_a_zero_comes_late (settings : Settings) (actions : List Action)
    (id : FunctionId) (label : String) (input : Edge) (target : Dims) :
    let network := Network.run settings .empty actions
    (∀ type : TensorType, (type.dims.Measures type.size? ↔ ¬ type.dims.LateZero) ∧
      (type.dims.LateZero → type.size? = none)) ∧
    (∀ dims : Dims, (∀ count, dims.count = .ok count ↔ dims.count? = some count) ∧
      ∀ fault, dims.count = .error fault ↔ dims.count? = none ∧ fault = .uncountable dims) ∧
    (∀ dims other : Dims, dims.Perm other →
      (dims.count? = other.count? ↔ (dims.LateZero ↔ other.LateZero))) ∧
    ((∃ made, (network.addLayer id label (.reshape input target)).1 = .ok made) ↔
      ∃ type, network.Shows id input type ∧
      (¬ target.LateZero ∧ ¬ type.dims.LateZero) ∧ target.product = type.dims.product ∧
        target.product < UInt64.size) := by
  intro network
  have kept : network.Represented := run_represented settings .empty actions empty_represented
  refine ⟨fun type => ⟨measures_iff type.dims, fun late => (uncounted_iff type.dims).mpr (.inl late)⟩,
    fun dims => ⟨count_iff dims, count_fault_iff dims⟩, reordered_counts_iff, ?_⟩
  simp only [← equal_counts_iff]
  exact reshape_added_iff network kept id label input target

-- The zero is last, and what comes in front of it is 2 ^ 63.
theorem timely_zero_is_counted :
    let dims : Dims := [4294967296, 2147483648, 0]
    let network := Network.run {} .empty [.createFunction "f",
      .createVariable ⟨.plain .float [0], "x", .external, .none⟩]
    dims.Perm [0, 4294967296, 2147483648] ∧ dims.count? = Dims.count? [0, 4294967296, 2147483648] ∧
      dims.Measures dims.count? ∧
      ∃ made, (network.addLayer ⟨0⟩ "r" (.reshape (.ofVariable ⟨0⟩) dims)).1 = .ok made := by
  intro dims network
  obtain ⟨exact, _, ordered, reshaped⟩ := counts_are_exact_unless_a_zero_comes_late {}
    [.createFunction "f", .createVariable ⟨.plain .float [0], "x", .external, .none⟩] ⟨0⟩ "r"
      (.ofVariable ⟨0⟩) dims
  have reordered : dims.Perm [0, 4294967296, 2147483648] := by decide +kernel
  have timely : ¬ dims.LateZero := fun late => absurd late.2 (by decide +kernel)
  have early : ¬ Dims.LateZero [0, 4294967296, 2147483648] :=
    fun late => absurd late.2 (by decide +kernel)
  have given : ¬ Dims.LateZero [0] := fun late => absurd late.2 (by decide +kernel)
  have shown : network.Shows ⟨0⟩ (.ofVariable ⟨0⟩) (.plain .float [0]) :=
    ⟨{ id := ⟨0⟩, name := "f" }, by decide +kernel, by decide +kernel⟩
  exact ⟨reordered, (ordered dims _ reordered).mpr (iff_of_false timely early),
    (exact (.plain .float dims)).1.mpr timely,
    reshaped.mpr ⟨_, shown, ⟨timely, given⟩, by decide +kernel, by decide +kernel⟩⟩

-- Two orders of the same extents, one of them with the zero last.
theorem late_zero_is_refused :
    let dims : Dims := [9223372036854775808, 4, 0]
    let network := Network.run {} .empty [.createFunction "f",
      .createVariable ⟨.plain .float [0], "x", .external, .none⟩]
    dims.product = 0 ∧ ¬ dims.Measures dims.count? ∧ Dims.count? [0, 9223372036854775808, 4] = some 0 ∧
      network.Shows ⟨0⟩ (.ofVariable ⟨0⟩) (.plain .float [0]) ∧
      (network.addLayer ⟨0⟩ "r" (.reshape (.ofVariable ⟨0⟩) dims)).1 =
        .error (.invalidAttribute "r" (.shape (.uncountable dims))) := by
  intro dims network
  refine ⟨by
    decide +kernel, ?_, by decide +kernel,
      ⟨{ id := ⟨0⟩, name := "f" }, by decide +kernel, by decide +kernel⟩, ?_⟩
  · have refused : dims.count? = none := by decide +kernel
    rw [refused, Dims.Measures]
    decide +kernel
  · decide +kernel

end TensorGraph
