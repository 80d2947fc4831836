import TensorGraph.Graph.Variable
import TensorGraph.Operator.Basic

set_option autoImplicit false

namespace TensorGraph

-- A node as it is asked for. The forms without `With` bring their own parameters.
inductive Layer where
  | convolution (input : Edge) (depth : Extent) (window : Window)
  | convolutionWith (input filter bias : Edge) (result : TensorType) (depth : Extent) (window : Window)
  | pool (method : Pooling) (input : Edge) (window : Window)
  | fullyConnected (input : Edge) (depth : Extent)
  | fullyConnectedWith (input weights bias : Edge)
  | activation (curve : Activation) (input : Edge)
  | softMax (input selected : Edge)
  | crossEntropyLoss (input labels : Edge)
  | regression (input expected : Edge)
  | reshape (input : Edge) (dims : Dims)
  | transpose (input : Edge) (shuffle : List Extent)
  | broadcast (input : Edge) (shape : Dims) (axis : Extent)
  | concat (inputs : List Edge) (axis : Extent)
  | slice (input : Edge) (start stop : List Extent)
  | batchNormalization (input : Edge) (channel : Extent) (epsilon momentum : Binary32)
  | batchNormalizationWith (input beta gamma mean variance : Edge) (channel : Extent)
      (epsilon momentum : Binary32)
  | localResponseNormalization (input : Edge) (halfWindow : Extent) (alpha beta k : Binary32)
  | arithmetic (op : Arithmetic) (lhs rhs : Edge)
  | pow (base : Edge) (exponent : Binary32)
  | select (condition lhs rhs : Edge)
  | splat (type : TensorType) (value : Binary32)
  | matMul (lhs rhs : Edge)
  | batchedReduceAdd (batch : Edge)
  | batchedAdd (batch addend : Edge)
  | save (input : Edge)
  | saveTo (input : Edge) (output : VariableId)
  | quantizationProfile (input : Edge)
  | topK (input : Edge) (k : Extent)
  | gather (data indices : Edge)
  | quantize (input : Edge) (result : TensorType)
  | dequantize (input : Edge)
  | rescaleQuantized (input : Edge) (result : TensorType)
deriving DecidableEq, Repr

structure Parameter where
  type : TensorType
  name : String
  visibility : Visibility
  initializer : Initializer
deriving DecidableEq, Repr

inductive Operand where
  | given (edge : Edge)
  | fresh (parameter : Nat)
deriving DecidableEq, Repr

-- A layer that fits its operands, ready to be added under a label.
structure Draft where
  label : String
  operator : Operator
  operands : List Operand
  parameters : List Parameter := []
  results : List TensorType
deriving DecidableEq, Repr

def Parameter.internal (element : Element) (dims : Dims) (name : String)
    (initializer : Initializer) : Parameter :=
  ⟨.plain element dims, name, .internal, initializer⟩

def profileBuckets : Extent := 2000

-- One tenth.
def biasFill : Binary32 := ⟨0x3dcccccd⟩

end TensorGraph
