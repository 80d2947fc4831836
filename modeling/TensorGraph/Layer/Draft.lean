import TensorGraph.Graph.Scope
import TensorGraph.Layer.Basic

set_option autoImplicit false

namespace TensorGraph

namespace Layer

def shaped {α : Type} (label : String) (shape : Except ShapeFault α) : Except GraphFault α :=
  shape.mapError fun fault => .invalidAttribute label (.shape fault)

def imagesOf (label : String) (type : TensorType) : Except GraphFault Images := do
  require (type.rank = 4) (.rankMismatch label 4 type.rank)
  shaped label (Images.ofDims type.dims)

-- Whether extents can be stretched to targets: each is 1 or the target itself.
def stretches (label : String) (axis : Nat) : Dims → Dims → Except GraphFault Unit
  | extent :: extents, target :: targets => do
      require (extent = 1 ∨ extent = target) (.invalidAttribute label (.stretch extent axis target))
      stretches label (axis + 1) extents targets
  | _, _ => .ok ()

def channelsOf (label : String) (input : TensorType) (channel : Extent) : Except GraphFault Extent :=
  match input.dims[channel.toNat]? with
  | some channels => .ok channels
  | none => .error (.invalidAttribute label (.channelRange channel input))

def expectShape (label : String) (expected : Dims) (type : TensorType) : Except GraphFault Unit :=
  require (type.dims = expected) (.shapeMismatch label expected type.dims)

def expectCount (label : String) (count : Extent) (type : TensorType) : Except GraphFault Unit :=
  require (type.size = count) (.shapeMismatch label [count] type.dims)

def matrixDims (label : String) : Dims → Except GraphFault (Extent × Extent)
  | [rows, columns] => .ok (rows, columns)
  | dims => .error (.rankMismatch label 2 dims.length)

def entryDims (label : String) : Dims → Except GraphFault Dims
  | [] => .error (.rankMismatch label 1 0)
  | _ :: entry => .ok entry

def expectInt8Result (label : String) (input result : TensorType) : Except GraphFault Unit := do
  require (result.element = .int8Q ∧ result.isQuantized = true)
    (.elementMismatch label (.outputNotInt8 result))
  expectShape label input.dims result

-- The extent that one more tensor brings a stack to. All but that extent has to agree with the first
-- tensor.
def stacked (label : String) (axis : Extent) (first : TensorType) (total : Extent) (type : TensorType) :
    Except GraphFault Extent := do
  require (type.element = first.element) (.elementMismatch label (.unlikeFirst type first))
  require (type.rank = first.rank) (.rankMismatch label first.rank type.rank)
  let extent := type.dims.getD axis.toNat 0
  require (Dims.agreeFrom 0 axis.toNat type.dims first.dims = true)
    (.shapeMismatch label (first.dims.set axis.toNat extent) type.dims)
  match total.add? extent with
  | some total => .ok total
  | none => .error (.invalidAttribute label (.shape (.concatOverflow axis)))

end Layer

namespace Scope

-- The extent of a stack once the operands given by the edges have been put on it.
def stackAll (scope : Scope) (label : String) (axis : Extent) (first : TensorType) :
    Extent → List Edge → Except GraphFault Extent
  | total, [] => .ok total
  | total, edge :: rest => do
      let type ← scope.operand label edge
      let total ← Layer.stacked label axis first total type
      scope.stackAll label axis first total rest

open Layer

-- Checks a layer against its operands and derives the types of its results and parameters.
def draft (scope : Scope) (label : String) : Layer → Except GraphFault Draft
  | .convolution input depth window => do
      let type ← scope.operand label input
      let images ← imagesOf label type
      let extents ← shaped label (window.output images)
      require (depth ≠ 0) (.invalidAttribute label .emptyDepth)
      let fanIn ← shaped label (Dims.count [window.kernel, window.kernel, images.channels])
      .ok {
        label := label
        operator := .convolution window depth
        operands := [.given input, .fresh 0, .fresh 1]
        parameters := [
          .internal .float [depth, window.kernel, window.kernel, images.channels] "filter"
            (.xavier (.ofNat fanIn.toNat)),
          .internal .float [depth] "bias" (.broadcast biasFill)]
        results := [.plain .float [images.count, extents.1, extents.2, depth]] }
  | .convolutionWith input filter bias result depth window => do
      let type ← scope.operand label input
      let filterType ← scope.operand label filter
      let biasType ← scope.operand label bias
      let images ← imagesOf label type
      let extents ← shaped label (window.output images)
      expectShape label [depth, window.kernel, window.kernel, images.channels] filterType
      expectCount label depth biasType
      expectShape label [images.count, extents.1, extents.2, depth] result
      .ok {
        label := label
        operator := .convolution window depth
        operands := [.given input, .given filter, .given bias]
        results := [result] }
  | .pool method input window => do
      let type ← scope.operand label input
      let images ← imagesOf label type
      let extents ← shaped label (window.output images)
      .ok {
        label := label
        operator := .pool method window
        operands := [.given input]
        results := [type.withDims [images.count, extents.1, extents.2, images.channels]] }
  | .fullyConnected input depth => do
      let type ← scope.operand label input
      let flat ← shaped label type.dims.flattened
      require (depth ≠ 0) (.invalidAttribute label .emptyOutputDepth)
      .ok {
        label := label
        operator := .fullyConnected
        operands := [.given input, .fresh 0, .fresh 1]
        parameters := [
          .internal type.element [flat.2, depth] "weights" (.xavier (.ofNat flat.2.toNat)),
          .internal type.element [depth] "bias" (.broadcast biasFill)]
        results := [.plain type.element [flat.1, depth]] }
  | .fullyConnectedWith input weights bias => do
      let type ← scope.operand label input
      let weightsType ← scope.operand label weights
      let biasType ← scope.operand label bias
      let flat ← shaped label type.dims.flattened
      let matrix ← matrixDims label weightsType.dims
      expectShape label [flat.2, matrix.2] weightsType
      expectCount label matrix.2 biasType
      .ok {
        label := label
        operator := .fullyConnected
        operands := [.given input, .given weights, .given bias]
        results := [type.withDims [flat.1, matrix.2]] }
  | .activation curve input => do
      let type ← scope.operand label input
      .ok {
        label := label
        operator := .activation curve
        operands := [.given input]
        results := [type] }
  | .softMax input selected => do
      let type ← scope.operand label input
      let _ ← scope.operand label selected
      .ok {
        label := label
        operator := .softMax
        operands := [.given input, .given selected]
        results := [type] }
  | .crossEntropyLoss input labels => do
      let type ← scope.operand label input
      let _ ← scope.operand label labels
      .ok {
        label := label
        operator := .crossEntropyLoss
        operands := [.given input, .given labels]
        results := [type.withDims [1]] }
  | .regression input expected => do
      let type ← scope.operand label input
      let expectedType ← scope.operand label expected
      expectShape label type.dims expectedType
      .ok {
        label := label
        operator := .regression
        operands := [.given input, .given expected]
        results := [type] }
  | .reshape input dims => do
      let type ← scope.operand label input
      let wanted ← shaped label dims.count
      let given ← shaped label type.dims.count
      require (wanted = given) (.invalidAttribute label (.reshape given dims wanted))
      .ok {
        label := label
        operator := .reshape dims
        operands := [.given input]
        results := [type.withDims dims] }
  | .transpose input shuffle => do
      let type ← scope.operand label input
      let dims ← shaped label (type.dims.transpose shuffle)
      .ok {
        label := label
        operator := .transpose shuffle
        operands := [.given input]
        results := [type.withDims dims] }
  | .broadcast input shape axis => do
      let type ← scope.operand label input
      require (axis.toNat + type.rank ≤ shape.length)
        (.invalidAttribute label (.placement type axis shape))
      stretches label 0 type.dims (shape.drop axis.toNat)
      .ok {
        label := label
        operator := .broadcast shape axis
        operands := [.given input]
        results := [.plain type.element shape] }
  | .concat [] _ => .error (.invalidAttribute label (.shape .nothingToConcat))
  | .concat (first :: rest) axis => do
      let type ← scope.operand label first
      require (axis.toNat < type.rank) (.invalidAttribute label (.concatAxis axis type))
      let total ← scope.stackAll label axis type (type.dims.getD axis.toNat 0) rest
      .ok {
        label := label
        operator := .concat axis
        operands := (first :: rest).map .given
        results := [type.withDims (type.dims.set axis.toNat total)] }
  | .slice input start stop => do
      let type ← scope.operand label input
      let dims ← shaped label (type.dims.slice start stop)
      .ok {
        label := label
        operator := .slice start
        operands := [.given input]
        results := [type.withDims dims] }
  | .batchNormalization input channel epsilon momentum => do
      let type ← scope.operand label input
      let channels ← channelsOf label type channel
      .ok {
        label := label
        operator := .batchNormalization channel epsilon momentum
        operands := [.given input, .fresh 1, .fresh 0, .fresh 2, .fresh 3]
        parameters := [
          .internal .float [channels] "beta" (.broadcast (.ofNat 0)),
          .internal .float [channels] "gamma" (.broadcast (.ofNat 1)),
          .internal .float [channels] "mean" .none,
          .internal .float [channels] "variance" .none]
        results := [type] }
  | .batchNormalizationWith input beta gamma mean variance channel epsilon momentum => do
      let type ← scope.operand label input
      let channels ← channelsOf label type channel
      let gammaType ← scope.operand label gamma
      expectCount label channels gammaType
      let betaType ← scope.operand label beta
      expectCount label channels betaType
      let meanType ← scope.operand label mean
      expectCount label channels meanType
      let varianceType ← scope.operand label variance
      expectCount label channels varianceType
      .ok {
        label := label
        operator := .batchNormalization channel epsilon momentum
        operands := [.given input, .given gamma, .given beta, .given mean, .given variance]
        results := [type] }
  | .localResponseNormalization input halfWindow alpha beta k => do
      let type ← scope.operand label input
      .ok {
        label := label
        operator := .localResponseNormalization halfWindow alpha beta k
        operands := [.given input]
        results := [type] }
  | .arithmetic op lhs rhs => do
      let lhsType ← scope.operand label lhs
      let rhsType ← scope.operand label rhs
      expectShape label lhsType.dims rhsType
      .ok {
        label := label
        operator := .arithmetic op
        operands := [.given lhs, .given rhs]
        results := [lhsType] }
  | .pow base exponent => do
      let type ← scope.operand label base
      .ok { label := label, operator := .pow exponent, operands := [.given base], results := [type] }
  | .select condition lhs rhs => do
      let conditionType ← scope.operand label condition
      let lhsType ← scope.operand label lhs
      let rhsType ← scope.operand label rhs
      expectShape label lhsType.dims rhsType
      expectShape label rhsType.dims conditionType
      .ok {
        label := label
        operator := .select
        operands := [.given condition, .given lhs, .given rhs]
        results := [lhsType] }
  | .splat type value =>
      .ok {
        label := label
        operator := .splat value
        operands := []
        results := [type] }
  | .matMul lhs rhs => do
      let lhsType ← scope.operand label lhs
      let rhsType ← scope.operand label rhs
      let left ← matrixDims label lhsType.dims
      let right ← matrixDims label rhsType.dims
      require (lhsType.element = rhsType.element) (.elementMismatch label (.unequal lhsType rhsType))
      expectShape label [left.2, right.2] rhsType
      .ok {
        label := label
        operator := .matMul
        operands := [.given lhs, .given rhs]
        results := [lhsType.withDims [left.1, right.2]] }
  | .batchedReduceAdd batch => do
      let type ← scope.operand label batch
      let entry ← entryDims label type.dims
      .ok {
        label := label
        operator := .batchedReduceAdd
        operands := [.given batch]
        results := [.plain type.element entry] }
  | .batchedAdd batch addend => do
      let type ← scope.operand label batch
      let addendType ← scope.operand label addend
      let entry ← entryDims label type.dims
      expectShape label entry addendType
      .ok {
        label := label
        operator := .batchedAdd
        operands := [.given batch, .given addend]
        results := [type] }
  | .save input => do
      let type ← scope.operand label input
      .ok {
        label := "_save_" ++ label
        operator := .save
        operands := [.given input, .fresh 0]
        parameters := [⟨type, label, .external, .none⟩]
        results := [.void] }
  | .saveTo input output => do
      let type ← scope.operand label input
      let outputType ← scope.operand label (.ofVariable output)
      expectShape label type.dims outputType
      .ok {
        label := label
        operator := .save
        operands := [.given input, .given (.ofVariable output)]
        results := [.void] }
  | .quantizationProfile input => do
      let _ ← scope.operand label input
      .ok {
        label := label
        operator := .quantizationProfile (scope.producerName input.producer)
        operands := [.given input, .fresh 0, .fresh 1]
        parameters := [
          .internal .float [profileBuckets] "histogram" .none,
          .internal .float [2] "computationInfo" .none]
        results := [.void] }
  | .topK input k => do
      let type ← scope.operand label input
      let dims ← shaped label (type.dims.topK k)
      .ok {
        label := label
        operator := .topK k
        operands := [.given input]
        results := [.plain type.element dims, .plain .index dims] }
  | .gather data indices => do
      let dataType ← scope.operand label data
      let indicesType ← scope.operand label indices
      let dims ← shaped label (dataType.dims.gather indicesType.dims)
      .ok {
        label := label
        operator := .gather
        operands := [.given data, .given indices]
        results := [dataType.withDims dims] }
  | .quantize input result => do
      let type ← scope.operand label input
      require (type.element = .float) (.elementMismatch label (.inputNotFloat type))
      expectInt8Result label type result
      .ok { label := label, operator := .quantize, operands := [.given input], results := [result] }
  | .dequantize input => do
      let type ← scope.operand label input
      require (type.element = .int8Q) (.elementMismatch label (.inputNotInt8 type))
      .ok {
        label := label
        operator := .dequantize
        operands := [.given input]
        results := [.plain .float type.dims] }
  | .rescaleQuantized input result => do
      let type ← scope.operand label input
      require (type.element = .int8Q) (.elementMismatch label (.inputNotInt8 type))
      expectInt8Result label type result
      .ok {
        label := label
        operator := .rescaleQuantized
        operands := [.given input]
        results := [result] }

end Scope

end TensorGraph
