import TensorGraph.Operator.Pins
import TensorGraph.Shape.Concat
import TensorGraph.Shape.Slice
import TensorGraph.Shape.Rearrange
import TensorGraph.Types.Tensor

set_option autoImplicit false

namespace TensorGraph

inductive Conversion where
  | quantize
  | dequantize
  | rescale
deriving DecidableEq, Repr

def Conversion.word : Conversion → String
  | quantize => "quantize"
  | dequantize => "dequantize"
  | rescale => "rescale"

inductive OperatorFault where
  | operandCount (name : String) (expected given : Nat)
  | noOperand (name : String)
  | resultCount (name : String) (expected given : Nat)
  | shape (fault : ShapeFault)
  | roleShape (role : String) (given expected : Dims)
  | roleSize (role : String) (given expected : Extent)
  | weightShape (weights : Dims) (features : Extent)
  | lossSize (loss : TensorType)
  | elementCount (before after : Extent)
  | placement (rank : Nat) (axis : Extent) (targetRank : Nat)
  | sliceRank (start : List Extent) (result : TensorType) (rank : Nat)
  | sliceOverflow (start : List Extent) (result : TensorType)
  | channelRange (channel : Extent) (rank : Nat)
  | product (lhs rhs : Dims)
  | scalarBatch
  | histogramRank (histogram : TensorType)
  | computationInfoSize (info : TensorType)
  | indexElement (indices : TensorType)
  | conversion (attempt : Conversion) (input result : TensorType)
deriving DecidableEq, Repr

def OperatorFault.message : OperatorFault → String
  | operandCount name expected given =>
      name ++ " expects " ++ toString expected ++ " inputs, has " ++ toString given
  | noOperand name => name ++ " needs at least one input"
  | resultCount name expected given =>
      name ++ " expects " ++ toString expected ++ " results, has " ++ toString given
  | shape fault => fault.message
  | roleShape role given expected =>
      role ++ " has shape " ++ given.text ++ ", expected " ++ expected.text
  | roleSize role given expected =>
      role ++ " has " ++ given.text ++ " elements, expected " ++ expected.text
  | weightShape weights features =>
      "weights " ++ weights.text ++ " do not accept " ++ features.text ++ " input features"
  | lossSize loss => "loss must be a single element, got " ++ loss.text
  | elementCount before after =>
      "reshape changes element count from " ++ before.text ++ " to " ++ after.text
  | placement rank axis targetRank =>
      "input of rank " ++ toString rank ++ " placed at axis " ++ axis.text ++
        " does not fit target rank " ++ toString targetRank
  | sliceRank start result rank =>
      "slice start " ++ Dims.text start ++ " and result " ++ result.text ++
        " do not match input rank " ++ toString rank
  | sliceOverflow start result =>
      "slice start " ++ Dims.text start ++ " plus result " ++ result.text ++ " overflows"
  | channelRange channel rank =>
      "channel index " ++ channel.text ++ " out of range for rank " ++ toString rank
  | product lhs rhs => "cannot multiply " ++ lhs.text ++ " by " ++ rhs.text
  | scalarBatch => "batch must have rank >= 1"
  | histogramRank histogram => "histogram must have rank 1, got " ++ histogram.text
  | computationInfoSize info => "computation info must hold 2 elements, got " ++ info.text
  | indexElement indices => "indices must be of index kind, got " ++ indices.text
  | conversion attempt input result =>
      "cannot " ++ attempt.word ++ " " ++ input.text ++ " into " ++ result.text

def require {ε : Type} (condition : Prop) [Decidable condition] (fault : ε) : Except ε Unit :=
  if condition then .ok () else .error fault

namespace Operator

def derived {α : Type} (shape : Except ShapeFault α) : Except OperatorFault α := shape.mapError .shape

def expectDims (role : String) (type : TensorType) (dims : Dims) : Except OperatorFault Unit :=
  require (type.dims = dims) (.roleShape role type.dims dims)

def expectSize (role : String) (type : TensorType) (size : Extent) : Except OperatorFault Unit :=
  require (type.size = size) (.roleSize role type.size size)

-- The number of columns of a weight matrix with one row for each feature.
def weightColumns (weights : Dims) (features : Extent) : Except OperatorFault Extent :=
  match weights with
  | [rows, columns] => if rows = features then .ok columns else .error (.weightShape weights features)
  | _ => .error (.weightShape weights features)

def productDims (lhs rhs : Dims) : Except OperatorFault Dims :=
  match lhs, rhs with
  | [rows, inner], [length, columns] =>
      if inner = length then .ok [rows, columns] else .error (.product lhs rhs)
  | _, _ => .error (.product lhs rhs)

def channelExtent (dims : Dims) (channel : Extent) : Except OperatorFault Extent :=
  match dims[channel.toNat]? with
  | some extent => .ok extent
  | none => .error (.channelRange channel dims.length)

def batchEntry : Dims → Except OperatorFault Dims
  | [] => .error .scalarBatch
  | _ :: entry => .ok entry

def sliceStops (start : List Extent) (result : TensorType) : Except OperatorFault (List Extent) :=
  match Dims.rangeStops? start result.dims with
  | some stops => .ok stops
  | none => .error (.sliceOverflow start result)

-- Which of the two counts is wrong, the operands being counted first.
def countFault (operator : Operator) (operands results : Nat) : OperatorFault :=
  match operator.inputCount? with
  | none => if operands = 0 then .noOperand operator.name
      else .resultCount operator.name operator.resultCount results
  | some expected =>
      if operands = expected then .resultCount operator.name operator.resultCount results
      else .operandCount operator.name expected operands

def check : Operator → List TensorType → List TensorType → Except OperatorFault Unit
  | convolution window depth, [input, filter, bias], [result] => do
      let images ← derived (Images.ofDims input.dims)
      let extents ← derived (window.output images)
      expectDims "filter" filter [depth, window.kernel, window.kernel, images.channels]
      expectSize "bias" bias depth
      expectDims "result" result [images.count, extents.1, extents.2, depth]
  | pool _ window, [input], [result] => do
      let images ← derived (Images.ofDims input.dims)
      let extents ← derived (window.output images)
      expectDims "result" result [images.count, extents.1, extents.2, images.channels]
  | fullyConnected, [input, weights, bias], [result] => do
      let flat ← derived input.dims.flattened
      let columns ← weightColumns weights.dims flat.2
      expectSize "bias" bias columns
      expectDims "result" result [flat.1, columns]
  | activation _, [input], [result] => expectDims "result" result input.dims
  | softMax, [input, _], [result] => expectDims "result" result input.dims
  | localResponseNormalization _ _ _ _, [input], [result] => expectDims "result" result input.dims
  | pow _, [base], [result] => expectDims "result" result base.dims
  | crossEntropyLoss, [_, _], [result] => require (result.size = 1) (.lossSize result)
  | regression, [input, expected], [result] => do
      expectDims "expected" expected input.dims
      expectDims "result" result input.dims
  | reshape dims, [input], [result] => do
      expectDims "result" result dims
      let before ← derived input.dims.count
      let after ← derived result.dims.count
      require (before = after) (.elementCount before after)
  | transpose shuffle, [input], [result] => do
      let dims ← derived (input.dims.transpose shuffle)
      expectDims "result" result dims
  | broadcast shape axis, [input], [result] => do
      require (axis.toNat + input.rank ≤ shape.length) (.placement input.rank axis shape.length)
      expectDims "result" result shape
  | concat axis, first :: rest, [result] => do
      let dims ← derived (Dims.concat axis ((first :: rest).map TensorType.dims))
      expectDims "result" result dims
  | slice start, [input], [result] => do
      require (start.length = input.rank ∧ result.rank = input.rank) (.sliceRank start result input.rank)
      let stops ← sliceStops start result
      (derived (input.dims.slice start stops)).map fun _ => ()
  | batchNormalization channel _ _, [input, scale, bias, mean, variance], [result] => do
      let extent ← channelExtent input.dims channel
      expectSize "scale" scale extent
      expectSize "bias" bias extent
      expectSize "mean" mean extent
      expectSize "var" variance extent
      expectDims "result" result input.dims
  | arithmetic _, [lhs, rhs], [result] => do
      expectDims "rhs" rhs lhs.dims
      expectDims "result" result lhs.dims
  | select, [condition, lhs, rhs], [result] => do
      expectDims "lhs" lhs condition.dims
      expectDims "rhs" rhs condition.dims
      expectDims "result" result condition.dims
  | splat _, [], [_] => .ok ()
  | matMul, [lhs, rhs], [result] => do
      let dims ← productDims lhs.dims rhs.dims
      expectDims "result" result dims
  | batchedReduceAdd, [batch], [result] => do
      let entry ← batchEntry batch.dims
      expectDims "result" result entry
  | batchedAdd, [batch, addend], [result] => do
      let entry ← batchEntry batch.dims
      expectDims "slice" addend entry
      expectDims "result" result batch.dims
  | save, [input, output], [_] => expectDims "output" output input.dims
  | quantizationProfile _, [_, histogram, info], [_] => do
      require (histogram.rank = 1) (.histogramRank histogram)
      require (info.size = 2) (.computationInfoSize info)
  | topK k, [input], [values, indices] => do
      let dims ← derived (input.dims.topK k)
      expectDims "values" values dims
      expectDims "indices" indices dims
      require (indices.element = .index) (.indexElement indices)
  | gather, [data, indices], [result] => do
      let dims ← derived (data.dims.gather indices.dims)
      expectDims "result" result dims
  | quantize, [input], [result] => do
      require (input.element.isFloat = true ∧
        result.isQuantized = true) (.conversion .quantize input result)
      expectDims "result" result input.dims
  | dequantize, [input], [result] => do
      require (input.isQuantized = true ∧ result.element.isFloat = true)
        (.conversion .dequantize input result)
      expectDims "result" result input.dims
  | rescaleQuantized, [input], [result] => do
      require (input.isQuantized = true ∧ result.isQuantized = true) (.conversion .rescale input result)
      expectDims "result" result input.dims
  | operator, operands, results => .error (operator.countFault operands.length results.length)

end Operator

end TensorGraph
