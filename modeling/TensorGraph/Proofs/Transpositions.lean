import Mathlib.Data.List.GetD
import TensorGraph.Proofs.Growth
import TensorGraph.Proofs.ShapeChanges

set_option autoImplicit false

namespace TensorGraph

namespace Dims

-- One shuffle for a shuffle and another one after it.
def composedShuffle (shuffle second : List Extent) : List Extent :=
  second.map fun axis => shuffle.getD axis.toNat 0

-- The shuffle that puts every axis back where it was.
def inverseShuffle (shuffle : List Extent) : List Extent :=
  (List.range shuffle.length).map fun axis => UInt64.ofNat ((shuffle.map UInt64.toNat).idxOf axis)

end Dims

-- What the transposition of a type by a shuffle is.
structure TensorType.TransposedBy (type : TensorType) (shuffle : List Extent)
    (result : TensorType) : Prop where
  element : result.element = type.element
  quantization : result.quantization = type.quantization
  rank : result.rank = type.rank
  axes : ∀ i < type.rank, (shuffle.getD i 0).toNat < type.rank ∧
    result.dims.getD i 0 = type.dims.getD (shuffle.getD i 0).toNat 0
  reordered : result.dims.Perm type.dims
  product : result.dims.product = type.dims.product

section Shuffles

variable (dims : Dims) (shuffle : List Extent)

theorem shuffles_iff (result : Dims) : dims.ShuffledBy shuffle result ↔
    (shuffle.map UInt64.toNat).Perm (List.range dims.length) ∧
      result = shuffle.map fun axis => dims.getD axis.toNat 0 := by
  constructor
  · exact fun shuffled => ⟨shuffled_axes dims result shuffle shuffled, shuffled.moved⟩
  · rintro ⟨axes, moved⟩
    refine ⟨?_, fun axis listed => ?_, ?_, moved⟩
    · have lengths := axes.length_eq
      rwa [List.length_map, List.length_range] at lengths
    · exact List.mem_range.mp (axes.mem_iff.mp (List.mem_map_of_mem listed))
    · exact List.Nodup.of_map _ (axes.nodup_iff.mpr List.nodup_range)

theorem shuffled_entry (result : Dims) (shuffled : dims.ShuffledBy shuffle result) (i : Nat)
    (inside : i < dims.length) :
    (shuffle.getD i 0).toNat < dims.length ∧ result.getD i 0 = dims.getD (shuffle.getD i 0).toNat 0 := by
  have within : i < shuffle.length := shuffled.count ▸ inside
  have listed : shuffle.getD i 0 ∈ shuffle := by
    rw [List.getD_eq_getElem _ _ within]
    exact List.getElem_mem within
  refine ⟨shuffled.axes _ listed, ?_⟩
  rw [shuffled.moved, List.getD_eq_getElem _ _ (by rwa [List.length_map]), List.getElem_map,
    List.getD_eq_getElem _ _ within]

theorem shuffled_twice (second : List Extent) (middle result : Dims)
    (first : dims.ShuffledBy shuffle middle) (again : middle.ShuffledBy second result) :
    dims.ShuffledBy (Dims.composedShuffle shuffle second) result := by
  have rank : middle.length = dims.length := by rw [first.moved, List.length_map, first.count]
  have inside : ∀ axis ∈ second, axis.toNat < dims.length :=
    fun axis listed => rank ▸ again.axes axis listed
  refine ⟨?_, fun axis listed => ?_, ?_, ?_⟩
  · rw [Dims.composedShuffle, List.length_map, again.count, rank]
  · obtain ⟨place, member, rfl⟩ := List.mem_map.mp listed
    exact (shuffled_entry dims shuffle middle first place.toNat (inside place member)).1
  · refine again.apart.map_on fun a memberA b memberB same => ?_
    have withinA : a.toNat < shuffle.length := first.count ▸ inside a memberA
    have withinB : b.toNat < shuffle.length := first.count ▸ inside b memberB
    rw [List.getD_eq_getElem _ _ withinA, List.getD_eq_getElem _ _ withinB] at same
    exact UInt64.toNat_inj.mp (first.apart.getElem_inj_iff.mp same)
  · rw [again.moved, Dims.composedShuffle, List.map_map]
    refine List.map_congr_left fun axis member => ?_
    exact (shuffled_entry dims shuffle middle first axis.toNat (inside axis member)).2

-- The place at which an axis is listed is itself an axis, so 64 bits suffice for it.
theorem listed_place (result : Dims) (shuffled : dims.ShuffledBy shuffle result) (axis : Nat)
    (inside : axis < dims.length) :
    ∃ place : Extent, UInt64.ofNat ((shuffle.map UInt64.toNat).idxOf axis) = place ∧
      place.toNat < dims.length ∧
      (shuffle.getD place.toNat 0).toNat = axis := by
  have axes := shuffled_axes dims result shuffle shuffled
  have before := List.idxOf_lt_length_of_mem (axes.mem_iff.mpr (List.mem_range.mpr inside))
  have within : (shuffle.map UInt64.toNat).idxOf axis < dims.length := by
    rwa [List.length_map, shuffled.count] at before
  have found := List.getElem_idxOf before
  obtain ⟨place, _, same⟩ := List.mem_map.mp (axes.mem_iff.mpr (List.mem_range.mpr within))
  refine ⟨place, ?_, same.symm ▸ within, ?_⟩
  · rw [← same]
    exact UInt64.ofNat_toNat
  · rw [List.getElem_map] at found
    rwa [same, List.getD_eq_getElem]

theorem shuffle_inverted (result : Dims) (shuffled : dims.ShuffledBy shuffle result) :
    result.ShuffledBy (Dims.inverseShuffle shuffle) dims := by
  have rank : result.length = dims.length := by rw [shuffled.moved, List.length_map, shuffled.count]
  refine ⟨?_, fun extent listed => ?_, ?_, ?_⟩
  · rw [Dims.inverseShuffle, List.length_map, List.length_range, shuffled.count, rank]
  · obtain ⟨axis, member, rfl⟩ := List.mem_map.mp listed
    have inside : axis < dims.length := shuffled.count ▸ List.mem_range.mp member
    obtain ⟨place, same, within, _⟩ := listed_place dims shuffle result shuffled axis inside
    rwa [same, rank]
  · refine List.nodup_range.map_on fun a memberA b memberB equal => ?_
    obtain ⟨place, same, _, back⟩ :=
      listed_place dims shuffle result shuffled a (shuffled.count ▸ List.mem_range.mp memberA)
    obtain ⟨other, again, _, also⟩ :=
      listed_place dims shuffle result shuffled b (shuffled.count ▸ List.mem_range.mp memberB)
    rw [same, again] at equal
    rw [← back, equal, also]
  · refine List.ext_getElem ?_ fun i insideDims insideBoth => ?_
    · rw [Dims.inverseShuffle, List.length_map, List.length_map, List.length_range, shuffled.count]
    · obtain ⟨place, same, within, back⟩ := listed_place dims shuffle result shuffled i insideDims
      simp only [Dims.inverseShuffle, List.getElem_map, List.getElem_range, same]
      rw [(shuffled_entry dims shuffle result shuffled place.toNat within).2, back,
        List.getD_eq_getElem _ _ insideDims]

end Shuffles

theorem shuffled_type_transposed (type : TensorType) (shuffle : List Extent) (dims : Dims)
    (shuffled : type.dims.ShuffledBy shuffle dims) : type.TransposedBy shuffle (type.withDims dims) := by
  have reordered := shuffled_reordered type.dims dims shuffle shuffled
  exact ⟨rfl, rfl, reordered.length_eq, shuffled_entry type.dims shuffle dims shuffled, reordered,
    product_of_reordered dims type.dims reordered⟩

theorem transposition_reshapes (input : Edge) (shuffle : List Extent) :
    (Layer.transpose input shuffle).Reshapes input (.transpose shuffle) fun dims result =>
      dims.ShuffledBy shuffle result := by
  refine ⟨nofun, fun scope label draft => ?_⟩
  simp only [Scope.draft, bind_ok_iff, operand_iff, shaped_ok_iff, transpose_iff, Except.ok.injEq]
  constructor
  · rintro ⟨type, typed, dims, shuffled, rfl⟩
    exact ⟨type, dims, typed, shuffled, rfl⟩
  · rintro ⟨type, dims, typed, shuffled, rfl⟩
    exact ⟨type, typed, dims, shuffled, rfl⟩

-- The accepted shuffles are the permutations of the axes. Two in a row do what one does, and what one
-- does another undoes, whatever is done in between.
theorem transpositions_are_permutations (settings : Settings) (actions : List Action)
    (id : FunctionId) (input : Edge) (type : TensorType)
    (shown : (Network.run settings .empty actions).Shows id input type) (label : String)
    (shuffle : List Extent) :
    let network := Network.run settings .empty actions
    ((∃ made, (network.addLayer id label (.transpose input shuffle)).1 = .ok made) ↔
      (shuffle.map UInt64.toNat).Perm (List.range type.rank)) ∧
    ∀ a middle, network.addLayer id label (.transpose input shuffle) = (.ok a, middle) →
      ∃ result, type.TransposedBy shuffle result ∧
        (∀ other, middle.Shows id (.ofNode a) other ↔ other = result) ∧
      (∀ between title second b last,
        (middle.run settings between).addLayer id title (.transpose (.ofNode a) second) = (.ok b, last) →
        ∀ after heading, (last.run settings after).Shows id input type → ∃ c final whole,
          (last.run settings after).addLayer id heading
            (.transpose input (Dims.composedShuffle shuffle second)) =
            (.ok c, final) ∧ last.ShowsAlike final id (.ofNode b) (.ofNode c) whole) ∧
      ∀ between title, (middle.run settings between).Shows id (.ofNode a) result → ∃ b last,
        (middle.run settings between).addLayer id title
          (.transpose (.ofNode a) (Dims.inverseShuffle shuffle)) =
          (.ok b, last) ∧ network.ShowsAlike last id input (.ofNode b) type := by
  intro network
  have kept : network.Represented := run_represented settings .empty actions empty_represented
  have reshapes := transposition_reshapes input shuffle
  refine ⟨?_, fun a middle added => ?_⟩
  · rw [reshaping_accepted_iff network kept id label _ input _ _ reshapes type shown]
    simp only [shuffles_iff, exists_and_left, exists_eq, and_true]
    rfl
  have middleKept := added_layer_kept network middle kept id label _ a added
  have persists := added_layer_persists network middle kept id label _ a added
  obtain ⟨dims, shuffled, results⟩ :=
    reshaping_done network kept id label _ input _ _ reshapes type shown a middle added
  refine ⟨type.withDims dims, shuffled_type_transposed type shuffle dims shuffled, results.shown, ?_, ?_⟩
  · intro between title second b last secondAdded after heading still
    have laterKept := run_represented settings middle between middleKept
    have lastKept := added_layer_kept _ last laterKept id title _ b secondAdded
    exact whole_reshaping_made network middle _ last kept laterKept
      (run_persists settings middle between middleKept) id input
      type shown label title _ _ a b _ _ _ _ reshapes
        (transposition_reshapes (.ofNode a) second) added secondAdded _
      (run_represented settings last after lastKept)
        (run_persists settings last after lastKept) still heading _ _ _
      (transposition_reshapes input (Dims.composedShuffle shuffle second))
      fun dims middle result => shuffled_twice dims shuffle second middle result
  · intro between title stands
    have laterKept := run_represented settings middle between middleKept
    have later := run_persists settings middle between middleKept
    obtain ⟨b, last, inverseAdded, inverseResults⟩ :=
      reshaping_made _ laterKept id title _ (.ofNode a) _ _
      (transposition_reshapes (.ofNode a) (Dims.inverseShuffle shuffle)) _ stands type.dims
      (shuffle_inverted type.dims shuffle dims shuffled)
    have lastKept := added_layer_kept _ last laterKept id title _ b inverseAdded
    have lastPersists := added_layer_persists _ last laterKept id title _ b inverseAdded
    refine ⟨b, last, inverseAdded, shown_types_alike network last lastKept id ?_ input
      (.ofNode b) type shown ?_⟩
    · exact pool_extends_trans _ _ _ persists.types
        (pool_extends_trans _ _ _ later.types lastPersists.types)
    · exact (inverseResults.shown type).mpr rfl

-- Three axes that go round, and go back.
theorem rotated_axes_are_restored :
    let network := Network.run {} .empty [.createFunction "f",
      .createVariable ⟨.quantized .int8Q [2, 3, 5] ⟨0x3f000000⟩ 2, "x", .external, .none⟩]
    let type := TensorType.quantized .int8Q [2, 3, 5] ⟨0x3f000000⟩ 2
    let turn := network.addLayer ⟨0⟩ "t" (.transpose (.ofVariable ⟨0⟩) [2, 0, 1])
    network.Shows ⟨0⟩ (.ofVariable ⟨0⟩) type ∧ turn.1 = .ok ⟨0⟩ ∧
      turn.2.Shows ⟨0⟩ (.ofNode ⟨0⟩) (.quantized .int8Q [5, 2, 3] ⟨0x3f000000⟩ 2) ∧
      ∃ b last, turn.2.addLayer ⟨0⟩ "u" (.transpose (.ofNode ⟨0⟩) [1, 2, 0]) = (.ok b, last) ∧
        network.ShowsAlike last ⟨0⟩ (.ofVariable ⟨0⟩) (.ofNode b) type := by
  intro network type turn
  have shown : network.Shows ⟨0⟩ (.ofVariable ⟨0⟩) type := shows_of_lookup _ _ _ _ (by decide +kernel)
  obtain ⟨_, done⟩ := transpositions_are_permutations {} _ ⟨0⟩ (.ofVariable ⟨0⟩) type shown "t" [2, 0, 1]
  have answered : turn.1 = .ok ⟨0⟩ := by decide +kernel
  obtain ⟨result, _, results, _, undone⟩ := done ⟨0⟩ turn.2 (Prod.ext answered rfl)
  have turned : turn.2.Shows ⟨0⟩ (.ofNode ⟨0⟩) (.quantized .int8Q [5, 2, 3] ⟨0x3f000000⟩ 2) :=
    shows_of_lookup _ _ _ _ (by decide +kernel)
  obtain rfl := (results _).mp turned
  exact ⟨shown, answered, turned, undone [] "u" turned⟩

end TensorGraph
