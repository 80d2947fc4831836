import TensorGraph.Proofs.Slices
import TensorGraph.Proofs.Stacking

set_option autoImplicit false

namespace TensorGraph

namespace Dims

-- Where the `i`th of some shapes begins on the axis along which they are stacked.
def offset (axis : Nat) (shapes : List Dims) (i : Nat) : Nat := stackedOn axis (shapes.take i)

-- The bounds of the `i`th of them in the whole stack. On the other axes they leave nothing out.
def partStarts (axis : Nat) (shapes : List Dims) (whole : Dims) (i : Nat) : List Extent :=
  (whole.map fun _ => 0).set axis (UInt64.ofNat (offset axis shapes i))

def partStops (axis : Nat) (shapes : List Dims) (whole : Dims) (i : Nat) : List Extent :=
  whole.set axis (UInt64.ofNat (offset axis shapes (i + 1)))

end Dims

section Offsets

variable (axis : Nat) (shapes : List Dims)

theorem offset_next (i : Nat) (dims : Dims) (listed : shapes[i]? = some dims) :
    Dims.offset axis shapes (i + 1) = Dims.offset axis shapes i + (dims.getD axis 0).toNat := by
  rw [Dims.offset, List.take_add_one, stacked_on_append, listed]
  rfl

theorem offset_below (i : Nat) : Dims.offset axis shapes i ≤ Dims.stackedOn axis shapes := by
  conv_rhs => rw [← List.take_append_drop i shapes, stacked_on_append]
  exact Nat.le_add_right _ _

theorem offset_grows (i j : Nat) (before : i ≤ j) :
    Dims.offset axis shapes i ≤ Dims.offset axis shapes j := by
  have part := offset_below axis (shapes.take j) i
  rwa [Dims.offset, List.take_take, Nat.min_eq_left before] at part

theorem place_owned (place : Nat) (inside : place < Dims.stackedOn axis shapes) :
    ∃ i < shapes.length, Dims.offset axis shapes i ≤ place ∧
      place < Dims.offset axis shapes (i + 1) := by
  induction shapes generalizing place with
  | nil => cases inside
  | cons dims rest ih =>
      have shift : ∀ i, Dims.offset axis (dims :: rest) (i + 1) = (dims.getD axis 0).toNat +
          Dims.offset axis rest i :=
        fun _ => rfl
      rw [Dims.stackedOn] at inside
      by_cases here : place < (dims.getD axis 0).toNat
      · exact ⟨0, Nat.succ_pos _, Nat.zero_le _, (shift 0).symm ▸ Nat.lt_add_right _ here⟩
      · obtain ⟨i, listed, after, before⟩ := ih (place - (dims.getD axis 0).toNat) (by omega)
        refine ⟨i + 1, Nat.succ_lt_succ listed, ?_, ?_⟩
        · rw [shift]
          omega
        · rw [shift]
          omega

-- Each place on the axis belongs to one of the shapes, since none begins before the one in front of it
-- ends.
theorem places_owned_once (place : Nat) : place < Dims.stackedOn axis shapes ↔
    ∃! i, i < shapes.length ∧ Dims.offset axis shapes i ≤ place ∧
      place < Dims.offset axis shapes (i + 1) := by
  constructor
  · intro inside
    obtain ⟨i, listed, after, before⟩ := place_owned axis shapes place inside
    refine ⟨i, ⟨listed, after, before⟩, ?_⟩
    rintro j ⟨_, later, earlier⟩
    rcases Nat.lt_trichotomy i j with above | same | below
    · have apart := offset_grows axis shapes (i + 1) j above
      omega
    · exact same.symm
    · have apart := offset_grows axis shapes (j + 1) i below
      omega
  · rintro ⟨i, ⟨_, _, before⟩, _⟩
    exact Nat.lt_of_lt_of_le before (offset_below axis shapes (i + 1))

end Offsets

theorem set_other_entry (dims : Dims) (axis i : Nat) (apart : axis ≠ i) (extent : Extent) :
    (dims.set axis extent).getD i 0 = dims.getD i 0 := by
  rw [List.getD_eq_getElem?_getD, List.getElem?_set_ne apart, List.getD_eq_getElem?_getD]

theorem agreeing_entry (axis i : Nat) (apart : axis ≠ i) (a b : Dims) (agrees : a.AgreesOff axis b) :
    a.getD i 0 = b.getD i 0 := by
  rw [← set_other_entry a axis i apart 0, (agrees_off_iff_set axis a b 0).mp agrees,
    set_other_entry b axis i apart 0]

section Parts

variable (axis : Nat) (types : List TensorType) (result : TensorType)
  (stack : TensorType.StackOf axis types result)

include stack

-- No offset needs more than 64 bits, since the extent of the whole does not.
theorem offset_exact (i : Nat) : (UInt64.ofNat (Dims.offset axis (types.map TensorType.dims) i)).toNat =
    Dims.offset axis (types.map TensorType.dims) i := by
  refine Nat.mod_eq_of_lt (Nat.lt_of_le_of_lt (offset_below axis _ i) ?_)
  rw [← stack.extent]
  exact (result.dims.getD axis 0).toNat_lt

theorem part_starts_exact (i : Nat) :
    ((Dims.partStarts axis (types.map TensorType.dims) result.dims i).getD axis 0).toNat =
    Dims.offset axis (types.map TensorType.dims) i := by
  have inside : axis < (result.dims.map fun _ => (0 : Extent)).length := by
    rw [List.length_map]
    exact stack.inside
  exact (congrArg UInt64.toNat (set_entry _ axis inside _)).trans
    (offset_exact axis types result stack i)

theorem part_stops_exact (i : Nat) :
    ((Dims.partStops axis (types.map TensorType.dims) result.dims i).getD axis 0).toNat =
    Dims.offset axis (types.map TensorType.dims) (i + 1) :=
  (congrArg UInt64.toNat (set_entry _ axis stack.inside _)).trans
    (offset_exact axis types result stack (i + 1))

theorem part_stops_after (i : Nat) (type : TensorType) (listed : types[i]? = some type) :
    ((Dims.partStops axis (types.map TensorType.dims) result.dims i).getD axis 0).toNat =
      Dims.offset axis (types.map TensorType.dims) i + (type.dims.getD axis 0).toNat := by
  have place : (types.map TensorType.dims)[i]? = some type.dims := by
    rw [List.getElem?_map, listed]
    rfl
  rw [part_stops_exact axis types result stack i, offset_next axis _ i type.dims place]

-- The bounds of a part are as far apart as it is wide: on the axis of the stack from its offset on,
-- elsewhere from end to end.
theorem part_spanned (i : Nat) (type : TensorType) (listed : types[i]? = some type) :
    result.dims.Spans (Dims.partStarts axis (types.map TensorType.dims) result.dims i)
      (Dims.partStops axis (types.map TensorType.dims) result.dims i) type.dims := by
  obtain ⟨_, agrees⟩ := stack.alike type (List.mem_of_getElem? listed)
  refine ⟨?_, List.length_set, agrees.1, fun j inside => ?_, fun j inside => ?_⟩
  · rw [Dims.partStarts, List.length_set, List.length_map]
  · by_cases here : axis = j
    · subst here
      rw [part_starts_exact axis types result stack i,
        part_stops_after axis types result stack i type listed]
    · have zero : (Dims.partStarts axis (types.map TensorType.dims) result.dims i).getD j 0 = 0 := by
        rw [Dims.partStarts, set_other_entry _ axis j here,
          List.getD_eq_getElem _ _ (by rwa [List.length_map]),
          List.getElem_map]
      rw [zero, Dims.partStops, set_other_entry _ axis j here, agreeing_entry axis j here _ _ agrees]
      exact Nat.zero_add _
  · by_cases here : axis = j
    · subst here
      rw [UInt64.le_iff_toNat_le, part_stops_exact axis types result stack i, stack.extent]
      exact offset_below axis _ (i + 1)
    · rw [Dims.partStops, set_other_entry _ axis j here]
      exact UInt64.le_refl _

end Parts

-- What was stacked comes back by slices of the stack, all of it that is not empty, and nothing of the
-- stack is left over.
theorem slices_undo_stacks (settings : Settings) (actions : List Action) (id : FunctionId)
    (label : String) (edges : List Edge) (axis : Extent) (made : NodeId) (next : Network)
    (added : (Network.run settings .empty actions).addLayer id label (.concat edges axis) =
      (.ok made, next)) :
    ∃ types result, List.Forall₂ ((Network.run settings .empty actions).Shows id) edges types ∧
      (∀ other, next.Shows id (.ofNode made) other ↔ other = result) ∧
      let shapes := types.map TensorType.dims
      let starts := Dims.partStarts axis.toNat shapes result.dims
      let stops := Dims.partStops axis.toNat shapes result.dims
      (∀ i type, types[i]? = some type →
        ((starts i).getD axis.toNat 0).toNat = Dims.stackedOn axis.toNat (shapes.take i) ∧
        ((stops i).getD axis.toNat 0).toNat =
          Dims.stackedOn axis.toNat (shapes.take i) + (type.dims.getD axis.toNat 0).toNat ∧
        ∀ between part, (next.run settings between).Shows id (.ofNode made) result →
          let slicing :=
            (next.run settings between).addLayer id part (.slice (.ofNode made) (starts i) (stops i))
          ((∃ cut, slicing.1 = .ok cut) ↔ ∀ extent ∈ type.dims, extent ≠ 0) ∧
          ∀ cut, slicing.1 = .ok cut → ∀ other, slicing.2.Shows id (.ofNode cut) other ↔
            other = result.withDims type.dims) ∧
      ∀ place, place < (result.dims.getD axis.toNat 0).toNat ↔ ∃! i, i < types.length ∧
        ((starts i).getD axis.toNat 0).toNat ≤ place ∧ place < ((stops i).getD axis.toNat 0).toNat := by
  have kept := run_represented settings .empty actions empty_represented
  have nextKept := added_layer_kept _ next kept id label _ made added
  obtain ⟨result, piles⟩ := added_stack_piles _ next kept id label edges axis made added
  obtain ⟨types, shown, stack⟩ := piles.stacking
  refine ⟨types, result, shown, piles.top, fun i type listed => ?_, fun place => ?_⟩
  · have spans := part_spanned axis.toNat types result stack i type listed
    refine ⟨part_starts_exact _ types result stack i,
      part_stops_after _ types result stack i type listed,
      fun between part still => ⟨?_, fun cut answered => ?_⟩⟩
    · rw [reshaping_accepted_iff _ (run_represented settings next between nextKept) id part _ _ _ _
        (slice_reshapes _ _ _) result still, cut_exists_iff, spanned_bounds_iff _ _ _ _ spans]
    · obtain ⟨lengths, sliced, results⟩ :=
        reshaping_done _ (run_represented settings next between nextKept) id part _ _ _ _
        (slice_reshapes _ _ _) result still cut _ (Prod.ext answered rfl)
      obtain rfl := spanned_part_cut _ lengths _ _ type.dims spans sliced
      exact results.shown
  · rw [stack.extent, places_owned_once, List.length_map]
    simp only [part_starts_exact _ types result stack, part_stops_exact _ types result stack]

-- The last of three tensors comes back from behind the second one, which is empty and does not.
theorem part_behind_an_empty_one :
    let network := Network.run {} .empty [.createFunction "f",
      .createVariable ⟨.plain .float [2, 3], "x", .external, .none⟩,
      .createVariable ⟨.plain .float [2, 0], "y", .external, .none⟩,
      .createVariable ⟨.plain .float [2, 4], "z", .external, .none⟩]
    let edges := [Edge.ofVariable ⟨0⟩, .ofVariable ⟨1⟩, .ofVariable ⟨2⟩]
    let stack := network.addLayer ⟨0⟩ "c" (.concat edges 1)
    let third := stack.2.addLayer ⟨0⟩ "d" (.slice (.ofNode ⟨0⟩) [0, 3] [2, 7])
    let second := stack.2.addLayer ⟨0⟩ "e" (.slice (.ofNode ⟨0⟩) [0, 3] [2, 3])
    stack.1 = .ok ⟨0⟩ ∧ third.1 = .ok ⟨1⟩ ∧ third.2.Shows ⟨0⟩ (.ofNode ⟨1⟩) (.plain .float [2, 4]) ∧
      ¬ ∃ cut, second.1 = .ok cut := by
  intro network edges stack third second
  have stacked : stack.1 = .ok ⟨0⟩ := by decide +kernel
  have cut : third.1 = .ok ⟨1⟩ := by decide +kernel
  obtain ⟨types, result, shown, top, parts, _⟩ :=
    slices_undo_stacks {} _ ⟨0⟩ "c" edges 1 ⟨0⟩ stack.2 (Prod.ext stacked rfl)
  have whole : stack.2.Shows ⟨0⟩ (.ofNode ⟨0⟩) (.plain .float [2, 7]) :=
    shows_of_lookup _ _ _ _ (by decide +kernel)
  obtain rfl := (top _).mp whole
  have listed : List.Forall₂ (network.Shows ⟨0⟩) edges [.plain .float [2, 3], .plain .float [2, 0],
    .plain .float [2, 4]] :=
    .cons (shows_of_lookup _ _ _ _ (by decide +kernel))
      (.cons (shows_of_lookup _ _ _ _ (by decide +kernel))
      (.cons (shows_of_lookup _ _ _ _ (by decide +kernel)) .nil))
  have single : Relator.RightUnique (network.Shows ⟨0⟩) :=
    fun edge type other => shown_type_unique network ⟨0⟩ edge type other
  obtain rfl := single.forall₂ shown listed
  obtain ⟨_, _, last⟩ := parts 2 _ rfl
  obtain ⟨_, _, empty⟩ := parts 1 _ rfl
  refine ⟨stacked, cut, ((last [] "d" whole).2 ⟨1⟩ cut _).mpr rfl, fun sliced => ?_⟩
  exact (empty [] "e" whole).1.mp sliced 0 (by decide) rfl

end TensorGraph
