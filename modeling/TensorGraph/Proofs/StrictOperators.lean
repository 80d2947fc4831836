import TensorGraph.Proofs.Acceptance
import TensorGraph.Proofs.StrictShapes
import TensorGraph.Proofs.Verification

set_option autoImplicit false

namespace TensorGraph

namespace Strict

variable {α : Type}

def derived (shape : Strict ShapeFault α) : Strict OperatorFault α := adapt .shape shape

-- The check of an operator as it reads its lists. It relies on its caller for their lengths.
def checkFirst (operands results : List TensorType) (result : TensorType) :
    Operator → Strict OperatorFault Unit
  | .convolution window depth => do
      let input ← must operands[0]?
      let images ← tested (Operator.derived (Images.ofDims input.dims))
      let extents ← derived (windowOutput window images)
      let filter ← must operands[1]?
      tested (Operator.expectDims "filter" filter [depth, window.kernel, window.kernel, images.channels])
      let bias ← must operands[2]?
      tested (Operator.expectSize "bias" bias depth)
      tested (Operator.expectDims "result" result [images.count, extents.1, extents.2, depth])
  | .pool _ window => do
      let input ← must operands[0]?
      let images ← tested (Operator.derived (Images.ofDims input.dims))
      let extents ← derived (windowOutput window images)
      tested (Operator.expectDims "result" result [images.count, extents.1, extents.2, images.channels])
  | .fullyConnected => do
      let input ← must operands[0]?
      let flat ← tested (Operator.derived input.dims.flattened)
      let weights ← must operands[1]?
      if weights.rank ≠ 2 then tested (.error (.weightShape weights.dims flat.2))
      else do
        let rows ← must weights.dims[0]?
        if rows ≠ flat.2 then tested (.error (.weightShape weights.dims flat.2))
        else do
          let bias ← must operands[2]?
          let columns ← must weights.dims[1]?
          tested (Operator.expectSize "bias" bias columns)
          tested (Operator.expectDims "result" result [flat.1, columns])
  | .activation _ | .softMax | .localResponseNormalization _ _ _ _ | .pow _ => do
      let input ← must operands[0]?
      tested (Operator.expectDims "result" result input.dims)
  | .crossEntropyLoss => tested (require (result.size = 1) (.lossSize result))
  | .regression => do
      let expected ← must operands[1]?
      let input ← must operands[0]?
      tested (Operator.expectDims "expected" expected input.dims)
      tested (Operator.expectDims "result" result input.dims)
  | .reshape dims => do
      tested (Operator.expectDims "result" result dims)
      let input ← must operands[0]?
      let before ← tested (Operator.derived input.dims.count)
      let after ← tested (Operator.derived result.dims.count)
      tested (require (before = after) (.elementCount before after))
  | .transpose shuffle => do
      let input ← must operands[0]?
      let dims ← derived (transpose input.dims shuffle)
      tested (Operator.expectDims "result" result dims)
  | .broadcast shape axis => do
      let input ← must operands[0]?
      tested (require (axis.toNat + input.rank ≤ shape.length) (.placement input.rank axis shape.length))
      tested (Operator.expectDims "result" result shape)
  | .concat axis => do
      let dims ← derived (concat axis (operands.map TensorType.dims))
      tested (Operator.expectDims "result" result dims)
  | .slice start => do
      let input ← must operands[0]?
      tested (require (start.length = input.rank ∧
        result.rank = input.rank) (.sliceRank start result input.rank))
      let stops ← tested (Operator.sliceStops start result)
      let _ ← derived (slice input.dims start stops)
      pure ()
  | .batchNormalization channel _ _ => do
      let input ← must operands[0]?
      let extent ← tested (Operator.channelExtent input.dims channel)
      let parameters ← must (from? operands 1)
      tested (checkAll (fun entry => Operator.expectSize entry.1 entry.2 extent)
        (["scale", "bias", "mean", "var"].zip parameters))
      tested (Operator.expectDims "result" result input.dims)
  | .arithmetic _ => do
      let rhs ← must operands[1]?
      let lhs ← must operands[0]?
      tested (Operator.expectDims "rhs" rhs lhs.dims)
      tested (Operator.expectDims "result" result lhs.dims)
  | .select => do
      let lhs ← must operands[1]?
      let condition ← must operands[0]?
      tested (Operator.expectDims "lhs" lhs condition.dims)
      let rhs ← must operands[2]?
      tested (Operator.expectDims "rhs" rhs condition.dims)
      tested (Operator.expectDims "result" result condition.dims)
  | .splat _ => pure ()
  | .matMul => do
      let lhs ← must operands[0]?
      let rhs ← must operands[1]?
      if lhs.rank ≠ 2 ∨ rhs.rank ≠ 2 then tested (.error (.product lhs.dims rhs.dims))
      else do
        let inner ← must lhs.dims[1]?
        let length ← must rhs.dims[0]?
        if inner ≠ length then tested (.error (.product lhs.dims rhs.dims))
        else do
          let rows ← must lhs.dims[0]?
          let columns ← must rhs.dims[1]?
          tested (Operator.expectDims "result" result [rows, columns])
  | .batchedReduceAdd => do
      let batch ← must operands[0]?
      if batch.dims.isEmpty then tested (.error .scalarBatch)
      else do
        let entry ← must (from? batch.dims 1)
        tested (Operator.expectDims "result" result entry)
  | .batchedAdd => do
      let batch ← must operands[0]?
      if batch.dims.isEmpty then tested (.error .scalarBatch)
      else do
        let addend ← must operands[1]?
        let entry ← must (from? batch.dims 1)
        tested (Operator.expectDims "slice" addend entry)
        tested (Operator.expectDims "result" result batch.dims)
  | .save => do
      let output ← must operands[1]?
      let input ← must operands[0]?
      tested (Operator.expectDims "output" output input.dims)
  | .quantizationProfile _ => do
      let histogram ← must operands[1]?
      tested (require (histogram.rank = 1) (.histogramRank histogram))
      let info ← must operands[2]?
      tested (require (info.size = 2) (.computationInfoSize info))
  | .topK k => do
      let input ← must operands[0]?
      let dims ← tested (Operator.derived (input.dims.topK k))
      tested (Operator.expectDims "values" result dims)
      let indices ← must results[1]?
      tested (Operator.expectDims "indices" indices dims)
      tested (require (indices.element = .index) (.indexElement indices))
  | .gather => do
      let data ← must operands[0]?
      let indices ← must operands[1]?
      let dims ← derived (gather data.dims indices.dims)
      tested (Operator.expectDims "result" result dims)
  | .quantize => do
      let input ← must operands[0]?
      tested (require (input.element.isFloat = true ∧
        result.isQuantized = true) (.conversion .quantize input result))
      tested (Operator.expectDims "result" result input.dims)
  | .dequantize => do
      let input ← must operands[0]?
      tested (require (input.isQuantized = true ∧
        result.element.isFloat = true) (.conversion .dequantize input result))
      tested (Operator.expectDims "result" result input.dims)
  | .rescaleQuantized => do
      let input ← must operands[0]?
      tested (require (input.isQuantized = true ∧
        result.isQuantized = true) (.conversion .rescale input result))
      tested (Operator.expectDims "result" result input.dims)

def check (operator : Operator) (operands results : List TensorType) : Strict OperatorFault Unit := do
  let result ← must results[0]?
  checkFirst operands results result operator

def countOperands (operator : Operator) (given : Nat) : Except OperatorFault Unit :=
  match operator.inputCount? with
  | some expected => require (given = expected) (.operandCount operator.name expected given)
  | none => require (given ≠ 0) (.noOperand operator.name)

def countResults (operator : Operator) (given : Nat) : Except OperatorFault Unit :=
  require (given = operator.resultCount) (.resultCount operator.name operator.resultCount given)

theorem derived_refines (shape : Except ShapeFault α) :
    derived (tested shape) = tested (Operator.derived shape) := rfl

-- The reads behind a test of the rank.
theorem weight_columns_refine (weights : Dims) (features : Extent)
    (next : Extent → Except OperatorFault Unit) :
    (if weights.length ≠ 2 then tested (.error (.weightShape weights features))
      else do
        let rows ← must weights[0]?
        if rows ≠ features then tested (.error (.weightShape weights features))
        else do
          let columns ← must weights[1]?
          tested (next columns)) = tested (Operator.weightColumns weights features >>= next) := by
  by_cases rank : weights.length = 2
  · obtain ⟨rows, columns, rfl⟩ := List.length_eq_two.mp rank
    rw [if_neg (not_not_intro rank), Operator.weightColumns]
    simp only [List.getElem?_cons_zero, List.getElem?_cons_succ, must_some]
    by_cases same : rows = features
    · rw [if_neg (not_not_intro same), if_pos same]
      rfl
    · rw [if_pos same, if_neg same]
      rfl
  · rw [if_pos rank]
    unfold Operator.weightColumns
    split
    · exact absurd rfl rank
    · rfl

theorem product_dims_refine (lhs rhs : Dims) (next : Dims → Except OperatorFault Unit) :
    (if lhs.length ≠ 2 ∨ rhs.length ≠ 2 then tested (.error (.product lhs rhs))
      else do
        let inner ← must lhs[1]?
        let length ← must rhs[0]?
        if inner ≠ length then tested (.error (.product lhs rhs))
        else do
          let rows ← must lhs[0]?
          let columns ← must rhs[1]?
          tested (next [rows, columns])) = tested (Operator.productDims lhs rhs >>= next) := by
  by_cases ranks : lhs.length = 2 ∧ rhs.length = 2
  · obtain ⟨left, right⟩ := ranks
    obtain ⟨rows, inner, rfl⟩ := List.length_eq_two.mp left
    obtain ⟨length, columns, rfl⟩ := List.length_eq_two.mp right
    rw [if_neg (by simp), Operator.productDims]
    simp only [List.getElem?_cons_zero, List.getElem?_cons_succ, must_some]
    by_cases same : inner = length
    · rw [if_neg (not_not_intro same), if_pos same]
      rfl
    · rw [if_pos same, if_neg same]
      rfl
  · rw [if_pos (by omega)]
    unfold Operator.productDims
    split
    · exact absurd ⟨rfl, rfl⟩ ranks
    · rfl

theorem batch_entry_refines (batch : Dims) (next : Dims → Except OperatorFault Unit) :
    (if batch.isEmpty then tested (.error .scalarBatch)
      else do
        let entry ← must (from? batch 1)
        tested (next entry)) = tested (Operator.batchEntry batch >>= next) := by
  cases batch with
  | nil => rfl
  | cons count entry => rfl

theorem check_refines (operator : Operator) (operands results : List TensorType)
    (takes : operator.TakesInputs operands.length) (gives : results.length = operator.resultCount) :
    check operator operands results = tested (operator.check operands results) := by
  cases operator
  case fullyConnected =>
    obtain ⟨input, weights, bias, rfl⟩ := List.length_eq_three.mp takes
    obtain ⟨result, rfl⟩ := List.length_eq_one_iff.mp gives
    simp only [check, checkFirst, Operator.check, List.getElem?_cons_zero,
      List.getElem?_cons_succ, must_some]
    refine tested_bind _ _ _ fun flat _ => Eq.trans ?_ (weight_columns_refine weights.dims flat.2 _)
    simp only [tested_then]
    rfl
  case matMul =>
    obtain ⟨lhs, rhs, rfl⟩ := List.length_eq_two.mp takes
    obtain ⟨result, rfl⟩ := List.length_eq_one_iff.mp gives
    exact product_dims_refine lhs.dims rhs.dims _
  case batchedReduceAdd =>
    obtain ⟨batch, rfl⟩ := List.length_eq_one_iff.mp takes
    obtain ⟨result, rfl⟩ := List.length_eq_one_iff.mp gives
    exact batch_entry_refines batch.dims _
  case batchedAdd =>
    obtain ⟨batch, addend, rfl⟩ := List.length_eq_two.mp takes
    obtain ⟨result, rfl⟩ := List.length_eq_one_iff.mp gives
    refine Eq.trans ?_ (batch_entry_refines batch.dims _)
    simp only [tested_then]
    rfl
  case batchNormalization channel epsilon momentum =>
    obtain ⟨input, parameters, rfl⟩ := List.exists_cons_of_length_eq_add_one takes
    obtain ⟨scale, others, rfl⟩ := List.exists_cons_of_length_eq_add_one (Nat.succ.inj takes)
    obtain ⟨bias, mean, variance, rfl⟩ := List.length_eq_three.mp (Nat.succ.inj (Nat.succ.inj takes))
    obtain ⟨result, rfl⟩ := List.length_eq_one_iff.mp gives
    have parameters : from? [input, scale, bias, mean, variance] 1 =
        some [scale, bias, mean, variance] := rfl
    simp only [check, checkFirst, Operator.check, List.getElem?_cons_zero, must_some, parameters]
    simp only [List.zip_cons_cons, check_all_step, tested_then, bind_assoc]
    rfl
  case slice start =>
    obtain ⟨input, rfl⟩ := List.length_eq_one_iff.mp takes
    obtain ⟨result, rfl⟩ := List.length_eq_one_iff.mp gives
    simp only [check, checkFirst, Operator.check, slice_refines, tested_then,
      derived_refines, ← tested_map]
    rfl
  case splat =>
    obtain rfl := List.length_eq_zero_iff.mp takes
    obtain ⟨result, rfl⟩ := List.length_eq_one_iff.mp gives
    rfl
  case concat axis =>
    obtain ⟨first, rest, rfl⟩ := List.exists_cons_of_length_pos takes
    obtain ⟨result, rfl⟩ := List.length_eq_one_iff.mp gives
    simp only [check, checkFirst, Operator.check, concat_refines, tested_then, derived_refines]
    rfl
  case topK k =>
    obtain ⟨input, rfl⟩ := List.length_eq_one_iff.mp takes
    obtain ⟨values, indices, rfl⟩ := List.length_eq_two.mp gives
    simp only [check, checkFirst, Operator.check, tested_then]
    rfl
  case convolution | select | quantizationProfile =>
    obtain ⟨first, second, third, rfl⟩ := List.length_eq_three.mp takes
    obtain ⟨result, rfl⟩ := List.length_eq_one_iff.mp gives
    simp only [check, checkFirst, Operator.check, window_output_refines, tested_then, derived_refines]
    rfl
  case softMax | crossEntropyLoss | regression | arithmetic | save | gather =>
    obtain ⟨first, second, rfl⟩ := List.length_eq_two.mp takes
    obtain ⟨result, rfl⟩ := List.length_eq_one_iff.mp gives
    simp only [check, checkFirst, Operator.check, gather_refines, tested_then, derived_refines]
    rfl
  all_goals
    obtain ⟨input, rfl⟩ := List.length_eq_one_iff.mp takes
    obtain ⟨result, rfl⟩ := List.length_eq_one_iff.mp gives
    simp only [check, checkFirst, Operator.check, window_output_refines, transpose_refines, tested_then,
      derived_refines]
    rfl

-- The check of a node that may have been given any operands and results.
def countedCheck (operator : Operator) (operands results : List TensorType) :
    Strict OperatorFault Unit := do
  tested (countOperands operator operands.length)
  tested (countResults operator results.length)
  check operator operands results

-- Lists of other lengths than those the operator names come to the last branch of its check.
theorem miscounted_check (operator : Operator) (operands results : List TensorType)
    (miscounted : ¬ (operator.TakesInputs operands.length ∧ results.length = operator.resultCount)) :
    operator.check operands results = .error (operator.countFault operands.length results.length) := by
  unfold Operator.check
  split
  case h_29 => rfl
  all_goals
    refine absurd ⟨?_, rfl⟩ miscounted
    simp [Operator.TakesInputs, Operator.inputCount?, Operator.inputPins]

theorem count_operands_iff (operator : Operator) (given : Nat) :
    countOperands operator given = .ok () ↔ operator.TakesInputs given := by
  unfold countOperands Operator.TakesInputs
  cases operator.inputCount? with
  | none => exact (require_ok_iff _ _).trans Nat.pos_iff_ne_zero.symm
  | some expected => exact require_ok_iff _ _

theorem count_operands_fault (operator : Operator) (given results : Nat)
    (miscounted : ¬ operator.TakesInputs given) :
    countOperands operator given = .error (operator.countFault given results) := by
  unfold Operator.TakesInputs at miscounted
  unfold countOperands Operator.countFault
  cases counted : operator.inputCount? with
  | none =>
      have missing : given = 0 := by
        rw [counted] at miscounted
        exact Nat.eq_zero_of_not_pos miscounted
      simp [missing, require]
  | some expected =>
      have different : given ≠ expected := by rwa [counted] at miscounted
      simp [different, require]

theorem count_results_fault (operator : Operator) (operands given : Nat)
    (takes : operator.TakesInputs operands) (miscounted : given ≠ operator.resultCount) :
    countResults operator given = .error (operator.countFault operands given) := by
  unfold Operator.TakesInputs at takes
  rw [countResults, require, if_neg miscounted]
  unfold Operator.countFault
  cases counted : operator.inputCount? with
  | none =>
      have positive : operands ≠ 0 := by
        rw [counted] at takes
        exact Nat.ne_of_gt takes
      simp [positive]
  | some expected =>
      have same : operands = expected := by rwa [counted] at takes
      simp [same]

theorem counted_check_refines (operator : Operator) (operands results : List TensorType) :
    countedCheck operator operands results = tested (operator.check operands results) := by
  rw [countedCheck]
  by_cases takes : operator.TakesInputs operands.length
  · rw [tested_step ((count_operands_iff _ _).mpr takes)]
    by_cases gives : results.length = operator.resultCount
    · have counted : countResults operator results.length = .ok () := (require_ok_iff _ _).mpr gives
      rw [tested_step counted, check_refines operator operands results takes gives]
    · rw [tested_fault (count_results_fault operator operands.length _ takes gives),
        miscounted_check operator operands results fun counts => gives counts.2]
  · rw [tested_fault (count_operands_fault operator _ results.length takes),
      miscounted_check operator operands results fun counts => takes counts.1]

end Strict

end TensorGraph
