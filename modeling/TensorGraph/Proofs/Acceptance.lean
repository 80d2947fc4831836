import TensorGraph.Proofs.Shapes

set_option autoImplicit false

namespace TensorGraph

namespace Operator

-- What an operator needs of the shapes around it, the stretching of extents apart.
def ShapesAgree : Operator → List TensorType → List TensorType → Prop
  | convolution window depth, [input, filter, bias], [result] =>
      ∃ images : Images, input.dims = images.dims ∧ window.Slides images.height images.width ∧
        filter.dims = [depth, window.kernel, window.kernel, images.channels] ∧ bias.size = depth ∧
        result.dims = [images.count, window.span images.height, window.span images.width, depth]
  | pool _ window, [input], [result] =>
      ∃ images : Images, input.dims = images.dims ∧ window.Slides images.height images.width ∧
        result.dims = [images.count, window.span images.height, window.span images.width,
          images.channels]
  | fullyConnected, [input, weights, bias], [result] =>
      ∃ batch features columns, (∃ entry, input.dims = batch :: entry ∧
        Dims.count? entry = some features) ∧
        weights.dims = [features, columns] ∧ bias.size = columns ∧ result.dims = [batch, columns]
  | activation _, [input], [result] => result.dims = input.dims
  | softMax, [input, _], [result] => result.dims = input.dims
  | localResponseNormalization _ _ _ _, [input], [result] => result.dims = input.dims
  | pow _, [base], [result] => result.dims = base.dims
  | crossEntropyLoss, [_, _], [result] => result.size = 1
  | regression, [input, expected], [result] => expected.dims = input.dims ∧ result.dims = input.dims
  | reshape dims, [input], [result] =>
      result.dims = dims ∧ ∃ count, input.dims.count? = some count ∧ result.dims.count? = some count
  | transpose shuffle, [input], [result] => input.dims.ShuffledBy shuffle result.dims
  | broadcast shape axis, [input], [result] =>
      axis.toNat + input.rank ≤ shape.length ∧ result.dims = shape
  | concat axis, first :: rest, [result] =>
      axis.toNat < first.dims.length ∧ (∀ type ∈ rest, first.dims.AgreesOff axis.toNat type.dims) ∧
        ∃ total : Extent, total.toNat = Dims.stackedOn axis.toNat ((first :: rest).map TensorType.dims) ∧
          result.dims = first.dims.set axis.toNat total
  | slice start, [input], [result] => Dims.Within start result.dims input.dims
  | batchNormalization channel _ _, [input, scale, bias, mean, variance], [result] =>
      ∃ extent, input.dims[channel.toNat]? = some extent ∧ scale.size = extent ∧ bias.size = extent ∧
        mean.size = extent ∧ variance.size = extent ∧ result.dims = input.dims
  | arithmetic _, [lhs, rhs], [result] => rhs.dims = lhs.dims ∧ result.dims = lhs.dims
  | select, [condition, lhs, rhs], [result] =>
      lhs.dims = condition.dims ∧ rhs.dims = condition.dims ∧ result.dims = condition.dims
  | splat _, [], [_] => True
  | matMul, [lhs, rhs], [result] =>
      ∃ rows inner columns, lhs.dims = [rows, inner] ∧ rhs.dims = [inner, columns] ∧
        result.dims = [rows, columns]
  | batchedReduceAdd, [batch], [result] => ∃ count, batch.dims = count :: result.dims
  | batchedAdd, [batch, addend], [result] =>
      ∃ entry, (∃ count, batch.dims = count :: entry) ∧ addend.dims = entry ∧ result.dims = batch.dims
  | save, [input, output], [_] => output.dims = input.dims
  | quantizationProfile _, [_, histogram, info], [_] => histogram.rank = 1 ∧ info.size = 2
  | topK k, [input], [values, indices] =>
      ∃ dims, input.dims.TrimmedTo k dims ∧ values.dims = dims ∧ indices.dims = dims
  | gather, [data, indices], [result] => ∃ count row, data.dims = count :: row ∧
      result.dims = indices.dims ++ row
  | quantize, [input], [result] => result.dims = input.dims
  | dequantize, [input], [result] => result.dims = input.dims
  | rescaleQuantized, [input], [result] => result.dims = input.dims
  | _, _, _ => False

-- What the check of an operator looks at besides shapes.
def ElementsAgree : Operator → List TensorType → List TensorType → Prop
  | topK _, _, [_, indices] => indices.element = .index
  | quantize, [input], [result] => input.element.isFloat = true ∧ result.isQuantized = true
  | dequantize, [input], [result] => input.isQuantized = true ∧ result.element.isFloat = true
  | rescaleQuantized, [input], [result] => input.isQuantized = true ∧ result.isQuantized = true
  | _, _, _ => True

end Operator

theorem require_ok_iff {ε : Type} (condition : Prop) [Decidable condition] (fault : ε) :
    require condition fault = .ok () ↔ condition := by
  unfold require
  split <;> simp_all

section Checks

variable (operator : Operator) (operands results : List TensorType)

open Operator

theorem derived_ok_iff {α : Type} (shape : Except ShapeFault α) (value : α) :
    derived shape = .ok value ↔ shape = .ok value := map_error_ok_iff _ _ _

theorem weight_columns_iff (weights : Dims) (features columns : Extent) :
    weightColumns weights features = .ok columns ↔ weights = [features, columns] := by
  unfold weightColumns
  split
  · rename_i rows found
    by_cases same : rows = features <;> simp [same]
  · rename_i other
    exact iff_of_false nofun fun same => other features columns same

theorem product_dims_iff (lhs rhs result : Dims) : productDims lhs rhs = .ok result ↔
    ∃ rows inner columns, lhs = [rows, inner] ∧ rhs = [inner, columns] ∧ result = [rows, columns] := by
  unfold productDims
  split
  · rename_i rows inner length columns
    by_cases same : inner = length
    · subst same
      rw [if_pos rfl, Except.ok.injEq]
      constructor
      · rintro rfl
        exact ⟨rows, inner, columns, rfl, rfl, rfl⟩
      · rintro ⟨_, _, _, ⟨⟩, ⟨⟩, rfl⟩
        rfl
    · rw [if_neg same]
      refine iff_of_false nofun ?_
      rintro ⟨_, _, _, ⟨⟩, ⟨⟩, _⟩
      exact same rfl
  · rename_i other
    refine iff_of_false nofun ?_
    rintro ⟨rows, inner, columns, rfl, rfl, _⟩
    exact other _ _ _ _ rfl rfl

theorem channel_extent_iff (dims : Dims) (channel extent : Extent) :
    channelExtent dims channel = .ok extent ↔ dims[channel.toNat]? = some extent := by
  unfold channelExtent
  split <;> simp_all

theorem batch_entry_iff (dims entry : Dims) :
    batchEntry dims = .ok entry ↔ ∃ count, dims = count :: entry := by
  cases dims with
  | nil => simp [batchEntry]
  | cons count rest => simp [batchEntry]

theorem slice_stops_iff (start : List Extent) (result : TensorType) (stops : List Extent) :
    sliceStops start result = .ok stops ↔ Dims.rangeStops? start result.dims = some stops := by
  unfold sliceStops
  split <;> simp_all

-- The check of a slice puts the ends back together from the starts and the extents of the result.
theorem slice_check_iff (start : List Extent) (input result : TensorType) :
    ((start.length = input.rank ∧ result.rank = input.rank) ∧
      ∃ stops, Dims.rangeStops? start result.dims = some stops ∧
        ∃ lengths, input.dims.slice start stops = .ok lengths) ↔
      Dims.Within start result.dims input.dims := by
  constructor
  · rintro ⟨⟨startCount, resultCount⟩, stops, ended, lengths, sliced⟩
    obtain ⟨within, again⟩ := (slice_iff _ lengths start stops).mp sliced
    have counts := within_counts start lengths _ within
    have same : lengths = result.dims := by
      refine range_stops_injective start lengths _ stops ?_ ?_ again ended
      · rw [counts.1, counts.2]
      · exact startCount.trans resultCount.symm
    exact same ▸ within
  · intro within
    obtain ⟨stops, ended, _⟩ := within_stops start _ _ within
    exact ⟨within_counts start _ _ within, stops, ended, _, (slice_iff _ _ _ _).mpr ⟨within, ended⟩⟩

-- One case for each branch of the check; the last branch is the one that no agreeing shapes come to.
theorem check_iff : operator.check operands results = .ok () ↔
    operator.ShapesAgree operands results ∧ operator.ElementsAgree operands results := by
  unfold Operator.check
  split
  case h_29 =>
    refine iff_of_false nofun ?_
    rintro ⟨agree, _⟩
    unfold ShapesAgree at agree
    split at agree
    case h_29 => exact agree
    all_goals
      clear agree
      solve_by_elim
  case h_14 start input result =>
    simp only [bind_ok_iff, some_unit_iff, require_ok_iff, map_ok_iff, derived_ok_iff,
      slice_stops_iff, and_true, slice_check_iff, ShapesAgree, ElementsAgree]
  case h_24 k input values indices =>
    simp only [bind_ok_iff, some_unit_iff, derived_ok_iff, top_k_iff, expectDims, require_ok_iff,
      ShapesAgree, ElementsAgree]
    constructor
    · rintro ⟨dims, trimmed, sameValues, sameIndices, indexed⟩
      exact ⟨⟨dims, trimmed, sameValues, sameIndices⟩, indexed⟩
    · rintro ⟨⟨dims, trimmed, sameValues, sameIndices⟩, indexed⟩
      exact ⟨dims, trimmed, sameValues, sameIndices, indexed⟩
  case h_26 | h_27 | h_28 =>
    rw [then_ok_iff, require_ok_iff, expectDims, require_ok_iff]
    exact and_comm
  all_goals
    simp only [ShapesAgree, ElementsAgree, and_true, bind_ok_iff, some_unit_iff, derived_ok_iff,
      require_ok_iff, expectDims, expectSize, images_iff, window_output_iff, flattened_iff,
      weight_columns_iff,
      product_dims_iff, channel_extent_iff, batch_entry_iff, count_iff, transpose_iff,
      concat_iff, gather_iff,
      List.map_cons, List.forall_mem_map, Prod.exists, and_assoc, exists_eq_left,
      exists_eq_right', exists_and_left, exists_and_right]

end Checks

end TensorGraph
