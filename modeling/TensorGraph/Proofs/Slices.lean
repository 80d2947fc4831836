import Mathlib.Data.List.GetD
import TensorGraph.Proofs.ShapeChanges

set_option autoImplicit false

namespace TensorGraph

-- Bounds with one range for each axis, none of them empty, each inside its extent.
structure Dims.Bounded (dims : Dims) (starts stops : List Extent) : Prop where
  startCount : starts.length = dims.length
  stopCount : stops.length = dims.length
  ranges : ∀ i < dims.length, starts.getD i 0 < stops.getD i 0 ∧ stops.getD i 0 ≤ dims.getD i 0

-- What ranges cut out of a shape.
structure Dims.CutBy (dims : Dims) (starts stops : List Extent) (lengths : Dims) : Prop where
  within : Dims.Within starts lengths dims
  ended : Dims.rangeStops? starts lengths = some stops

-- Bounds that lie apart, inside the shape, by the extents of another shape.
structure Dims.Spans (dims : Dims) (starts stops : List Extent) (part : Dims) : Prop where
  startCount : starts.length = dims.length
  stopCount : stops.length = dims.length
  count : part.length = dims.length
  sums : ∀ i < dims.length, (starts.getD i 0).toNat + (part.getD i 0).toNat = (stops.getD i 0).toNat
  inside : ∀ i < dims.length, stops.getD i 0 ≤ dims.getD i 0

-- What a slice of a type is. Its ends, which the node does not keep, come back out of the starts and the
-- result.
structure TensorType.SlicedBy (type : TensorType) (starts stops : List Extent)
    (result : TensorType) : Prop where
  element : result.element = type.element
  quantization : result.quantization = type.quantization
  rank : result.rank = type.rank
  lengths : ∀ i < type.rank, (starts.getD i 0).toNat + (result.dims.getD i 0).toNat =
    (stops.getD i 0).toNat
  rebuilt : Operator.sliceStops starts result = .ok stops

-- Bounds moved up by the starts of an enclosing range.
def Dims.shifted (starts bounds : List Extent) : List Extent := List.zipWith (· + ·) starts bounds

-- No bound is moved past 64 bits.
def Dims.ShiftsExactly (starts bounds : List Extent) : Prop :=
  (Dims.shifted starts bounds).map UInt64.toNat =
    List.zipWith (· + ·) (starts.map UInt64.toNat) (bounds.map UInt64.toNat)

section Ranges

theorem range_lengths_exist_iff (axis : Nat) (starts stops : List Extent) (dims : Dims)
    (startCount : starts.length = dims.length) (stopCount : stops.length = dims.length) :
    (∃ lengths, Dims.rangeLengths axis starts stops dims = .ok lengths) ↔
      ∀ i < dims.length, starts.getD i 0 < stops.getD i 0 ∧ stops.getD i 0 ≤ dims.getD i 0 := by
  induction dims generalizing axis starts stops with
  | nil =>
      obtain rfl := List.length_eq_zero_iff.mp startCount
      exact iff_of_true ⟨[], rfl⟩ fun i inside => absurd inside (Nat.not_lt_zero i)
  | cons extent dims ih =>
      obtain ⟨start, starts, rfl⟩ := List.exists_cons_of_length_eq_add_one startCount
      obtain ⟨stop, stops, rfl⟩ := List.exists_cons_of_length_eq_add_one stopCount
      have later := ih (axis + 1) starts stops (Nat.succ.inj startCount) (Nat.succ.inj stopCount)
      rw [List.length_cons, Nat.forall_lt_succ_left]
      simp only [List.getD_cons_zero, List.getD_cons_succ, ← later, Dims.rangeLengths]
      by_cases bounds : start < stop ∧ stop ≤ extent
      · rw [if_pos bounds, and_iff_right bounds]
        simp only [map_ok_iff]
        constructor
        · rintro ⟨_, lengths, measured, rfl⟩
          exact ⟨lengths, measured⟩
        · rintro ⟨lengths, measured⟩
          exact ⟨_, lengths, measured, rfl⟩
      · rw [if_neg bounds]
        refine iff_of_false ?_ fun both => bounds both.1
        rintro ⟨_, measured⟩
        cases measured

variable (dims lengths : Dims) (starts stops : List Extent)

theorem cut_iff_sliced : dims.CutBy starts stops lengths ↔ dims.slice starts stops = .ok lengths := by
  rw [slice_iff]
  exact ⟨fun cut => ⟨cut.within, cut.ended⟩, fun ⟨within, ended⟩ => ⟨within, ended⟩⟩

theorem cut_exists_iff : (∃ lengths, dims.CutBy starts stops lengths) ↔ dims.Bounded starts stops := by
  simp only [cut_iff_sliced]
  unfold Dims.slice
  by_cases counts : starts.length = dims.length ∧ stops.length = dims.length
  · obtain ⟨startCount, stopCount⟩ := counts
    rw [if_neg (not_not_intro (startCount.trans stopCount.symm)), if_neg (not_not_intro startCount),
      range_lengths_exist_iff 0 starts stops dims startCount stopCount]
    exact ⟨fun ranges => ⟨startCount, stopCount, ranges⟩, fun bounded => bounded.ranges⟩
  · refine iff_of_false ?_ fun bounded => counts ⟨bounded.startCount, bounded.stopCount⟩
    rintro ⟨lengths, measured⟩
    split at measured
    · cases measured
    · split at measured
      · cases measured
      · exact counts (by omega)

-- Starts and lengths add up to the stops on every axis, each of which therefore is as wide as its range.
theorem cut_exactly (cut : dims.CutBy starts stops lengths) : lengths.length = dims.length ∧
    ∀ i < dims.length, (starts.getD i 0).toNat + (lengths.getD i 0).toNat = (stops.getD i 0).toNat := by
  obtain ⟨within, ended⟩ := cut
  refine ⟨(within_counts starts lengths dims within).2, ?_⟩
  induction within generalizing stops with
  | nil => exact fun i inside => absurd inside (Nat.not_lt_zero i)
  | cons start length extent starts lengths extents filled inside rest ih =>
      obtain ⟨stop, others, sum, restEnded, rfl⟩ := (range_stops_cons _ _ _ _ _).mp ended
      rw [List.length_cons, Nat.forall_lt_succ_left]
      exact ⟨sum.symm, ih others restEnded⟩

theorem spanned_bounds_iff (part : Dims) (spans : dims.Spans starts stops part) :
    dims.Bounded starts stops ↔ ∀ extent ∈ part, extent ≠ 0 := by
  have filled : ∀ i < dims.length, starts.getD i 0 < stops.getD i 0 ↔ part.getD i 0 ≠ 0 := by
    intro i inside
    have sum := spans.sums i inside
    rw [UInt64.lt_iff_toNat_lt, ne_eq, ← UInt64.toNat_inj, UInt64.toNat_zero]
    omega
  constructor
  · intro bounded extent listed
    obtain ⟨i, within, rfl⟩ := List.mem_iff_getElem.mp listed
    have inside : i < dims.length := spans.count ▸ within
    have apart := (filled i inside).mp (bounded.ranges i inside).1
    rwa [List.getD_eq_getElem _ _ within] at apart
  · intro all
    refine ⟨spans.startCount, spans.stopCount,
      fun i inside => ⟨(filled i inside).mpr ?_, spans.inside i inside⟩⟩
    have within : i < part.length := spans.count.symm ▸ inside
    rw [List.getD_eq_getElem _ _ within]
    exact all _ (List.getElem_mem within)

theorem spanned_part_cut (part : Dims) (spans : dims.Spans starts stops part)
    (cut : dims.CutBy starts stops lengths) :
    lengths = part := by
  obtain ⟨count, sums⟩ := cut_exactly dims lengths starts stops cut
  refine List.ext_getElem (count.trans spans.count.symm) fun i within inPart => ?_
  have measured := sums i (count ▸ within)
  rw [← spans.sums i (count ▸ within), List.getD_eq_getElem _ _ within, List.getD_eq_getElem _ _ inPart]
    at measured
  exact UInt64.toNat_inj.mp (Nat.add_left_cancel measured)

-- A range inside a range is a range.
theorem cut_twice (inner innerStops : List Extent) (result : Dims)
    (within : Dims.Within starts lengths dims)
    (again : lengths.CutBy inner innerStops result) : Dims.ShiftsExactly starts inner ∧
      Dims.ShiftsExactly starts innerStops ∧
      dims.CutBy (Dims.shifted starts inner) (Dims.shifted starts innerStops) result := by
  obtain ⟨innerWithin, ended⟩ := again
  induction within generalizing inner innerStops result with
  | nil =>
      cases innerWithin
      obtain rfl := Option.some.inj ended
      exact ⟨rfl, rfl, .nil, rfl⟩
  | cons start length extent starts lengths extents filled inside rest ih =>
      cases innerWithin with
      | cons deeper size _ inner sizes _ innerFilled innerInside innerRest =>
          obtain ⟨stop, others, sum, restEnded, rfl⟩ := (range_stops_cons _ _ _ _ _).mp ended
          obtain ⟨startsExact, stopsExact, whole⟩ := ih inner others sizes innerRest restEnded
          have startSum := extent_sum_below start deeper extent (by omega)
          have stopSum := extent_sum_below start stop extent (by omega)
          refine ⟨congrArg₂ List.cons startSum startsExact,
            congrArg₂ List.cons stopSum stopsExact, ?_, ?_⟩
          · exact .cons (start + deeper) _ _ _ _ _ innerFilled (by omega) whole.within
          · exact (range_stops_cons (start + deeper) _ _ _ _).mpr ⟨start + stop,
              _, by omega, whole.ended, rfl⟩

end Ranges

theorem cut_type_sliced (type : TensorType) (starts stops : List Extent) (lengths : Dims)
    (cut : type.dims.CutBy starts stops lengths) :
    type.SlicedBy starts stops (type.withDims lengths) := by
  obtain ⟨rank, sums⟩ := cut_exactly type.dims lengths starts stops cut
  exact ⟨rfl, rfl, rank, sums, (slice_stops_iff starts (type.withDims lengths) stops).mpr cut.ended⟩

theorem slice_reshapes (input : Edge) (starts stops : List Extent) :
    (Layer.slice input starts stops).Reshapes input (.slice starts) fun dims result =>
      dims.CutBy starts stops result := by
  refine ⟨nofun, fun scope label draft => ?_⟩
  simp only [Scope.draft, bind_ok_iff, operand_iff, shaped_ok_iff, ← cut_iff_sliced, Except.ok.injEq]
  constructor
  · rintro ⟨type, typed, dims, cut, rfl⟩
    exact ⟨type, dims, typed, cut, rfl⟩
  · rintro ⟨type, dims, typed, cut, rfl⟩
    exact ⟨type, typed, dims, cut, rfl⟩

-- A slice is accepted as soon as its bounds are in order, and the check finds its ends again. Two in a
-- row do what one does, whose bounds are sums for which 64 bits suffice.
theorem slices_compose_exactly (settings : Settings) (actions : List Action) (id : FunctionId)
    (input : Edge) (type : TensorType)
    (shown : (Network.run settings .empty actions).Shows id input type) (label : String)
    (starts stops : List Extent) :
    let network := Network.run settings .empty actions
    ((∃ made, (network.addLayer id label (.slice input starts stops)).1 = .ok made) ↔
      type.dims.Bounded starts stops) ∧
    ∀ a middle, network.addLayer id label (.slice input starts stops) = (.ok a, middle) →
      ∃ result, type.SlicedBy starts stops result ∧ middle.Results id (.slice starts) type result a ∧
      ∀ between title inner innerStops b last,
        (middle.run settings between).addLayer id title (.slice (.ofNode a) inner innerStops) =
          (.ok b, last) →
        Dims.ShiftsExactly starts inner ∧ Dims.ShiftsExactly starts innerStops ∧
        ∀ after heading, (last.run settings after).Shows id input type → ∃ c final whole,
          (last.run settings after).addLayer id heading
            (.slice input (Dims.shifted starts inner) (Dims.shifted starts innerStops)) =
              (.ok c, final) ∧
          last.ShowsAlike final id (.ofNode b) (.ofNode c) whole := by
  intro network
  have kept : network.Represented := run_represented settings .empty actions empty_represented
  have reshapes := slice_reshapes input starts stops
  refine ⟨?_, fun a middle added => ?_⟩
  · rw [reshaping_accepted_iff network kept id label _ input _ _ reshapes type shown]
    exact cut_exists_iff type.dims starts stops
  have middleKept := added_layer_kept network middle kept id label _ a added
  obtain ⟨dims, cut, results⟩ :=
    reshaping_done network kept id label _ input _ _ reshapes type shown a middle added
  refine ⟨type.withDims dims, cut_type_sliced type starts stops dims cut, results, ?_⟩
  intro between title inner innerStops b last secondAdded
  have laterKept := run_represented settings middle between middleKept
  have persists := run_persists settings middle between middleKept
  have secondReshapes := slice_reshapes (.ofNode a) inner innerStops
  obtain ⟨lengths, result, outerCut, innerCut, _⟩ :=
    second_reshaping_done network middle _ last kept laterKept persists id
    input type shown label title _ _ a b _ _ _ _ reshapes secondReshapes added secondAdded
  obtain ⟨startsExact, stopsExact, _⟩ :=
    cut_twice type.dims lengths starts inner innerStops result outerCut.within innerCut
  refine ⟨startsExact, stopsExact, fun after heading still => ?_⟩
  have lastKept := added_layer_kept _ last laterKept id title _ b secondAdded
  exact whole_reshaping_made network middle _ last kept laterKept persists id input type shown label
    title _ _ a b _ _ _ _
    reshapes secondReshapes added secondAdded _ (run_represented settings last after lastKept)
    (run_persists settings last after lastKept) still heading _ _ _
    (slice_reshapes input (Dims.shifted starts inner) (Dims.shifted starts innerStops))
    fun dims middle result first second =>
      (cut_twice dims middle starts inner innerStops result first.within second).2.2

-- A slice of a slice, both of which end at the largest extent.
theorem slice_of_a_slice_reaches_the_end :
    let network := Network.run {} .empty [.createFunction "f",
      .createVariable ⟨.plain .float [18446744073709551615, 4], "x", .external, .none⟩]
    let type := TensorType.plain .float [18446744073709551615, 4]
    let part := network.addLayer ⟨0⟩ "p"
      (.slice (.ofVariable ⟨0⟩) [18446744073709551610, 1] [18446744073709551615, 4])
    let piece := part.2.addLayer ⟨0⟩ "q" (.slice (.ofNode ⟨0⟩) [2, 0] [5, 2])
    network.Shows ⟨0⟩ (.ofVariable ⟨0⟩) type ∧ part.1 = .ok ⟨0⟩ ∧ piece.1 = .ok ⟨1⟩ ∧
      Dims.ShiftsExactly [18446744073709551610, 1] [5, 2] ∧ ∃ c final whole,
        piece.2.addLayer ⟨0⟩ "w" (.slice (.ofVariable ⟨0⟩) [18446744073709551612, 1]
          [18446744073709551615, 3]) =
          (.ok c, final) ∧ piece.2.ShowsAlike final ⟨0⟩ (.ofNode ⟨1⟩) (.ofNode c) whole := by
  intro network type part piece
  have shown : network.Shows ⟨0⟩ (.ofVariable ⟨0⟩) type := shows_of_lookup _ _ _ _ (by decide +kernel)
  have first : part.1 = .ok ⟨0⟩ := by decide +kernel
  have second : piece.1 = .ok ⟨1⟩ := by decide +kernel
  obtain ⟨_, done⟩ :=
    slices_compose_exactly {} _ ⟨0⟩ (.ofVariable ⟨0⟩) type shown "p" [18446744073709551610, 1]
    [18446744073709551615, 4]
  obtain ⟨result, _, _, composed⟩ := done ⟨0⟩ part.2 (Prod.ext first rfl)
  obtain ⟨_, stopsExact, whole⟩ := composed [] "q" [2, 0] [5, 2] ⟨1⟩ piece.2 (Prod.ext second rfl)
  have still : piece.2.Shows ⟨0⟩ (.ofVariable ⟨0⟩) type := shows_of_lookup _ _ _ _ (by decide +kernel)
  exact ⟨shown, first, second, stopsExact, whole [] "w" still⟩

end TensorGraph
