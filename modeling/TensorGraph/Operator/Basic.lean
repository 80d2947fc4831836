import TensorGraph.Number.Binary32
import TensorGraph.Shape.Window

set_option autoImplicit false

namespace TensorGraph

inductive Pooling where
  | max
  | avg
deriving DecidableEq, Repr

inductive Activation where
  | relu
  | sigmoid
  | tanh
deriving DecidableEq, Repr

inductive Arithmetic where
  | add
  | sub
  | mul
  | div
  | max
  | min
  | cmpLte
deriving DecidableEq, Repr

-- What a node computes, with its scalar attributes.
inductive Operator where
  | convolution (window : Window) (depth : Extent)
  | pool (method : Pooling) (window : Window)
  | fullyConnected
  | activation (curve : Activation)
  | softMax
  | crossEntropyLoss
  | regression
  | reshape (dims : Dims)
  | transpose (shuffle : List Extent)
  | broadcast (shape : Dims) (axis : Extent)
  | concat (axis : Extent)
  | slice (start : List Extent)
  | batchNormalization (channel : Extent) (epsilon momentum : Binary32)
  | localResponseNormalization (halfWindow : Extent) (alpha beta k : Binary32)
  | arithmetic (op : Arithmetic)
  | pow (exponent : Binary32)
  | select
  | splat (value : Binary32)
  | matMul
  | batchedReduceAdd
  | batchedAdd
  | save
  | quantizationProfile (profiled : String)
  | topK (k : Extent)
  | gather
  | quantize
  | dequantize
  | rescaleQuantized
deriving DecidableEq, Repr

namespace Pooling

def name : Pooling → String
  | max => "PoolMax"
  | avg => "PoolAvg"

end Pooling

namespace Activation

def name : Activation → String
  | relu => "Relu"
  | sigmoid => "Sigmoid"
  | tanh => "Tanh"

end Activation

namespace Arithmetic

def name : Arithmetic → String
  | add => "Add"
  | sub => "Sub"
  | mul => "Mul"
  | div => "Div"
  | max => "Max"
  | min => "Min"
  | cmpLte => "CmpLTE"

end Arithmetic

namespace Operator

-- The name shown in descriptors, which also chooses the colour of a node.
def name : Operator → String
  | convolution _ _ => "Convolution"
  | pool method _ => method.name
  | fullyConnected => "FullyConnected"
  | activation curve => curve.name
  | softMax => "SoftMax"
  | crossEntropyLoss => "CrossEntropyLoss"
  | regression => "Regression"
  | reshape _ => "Reshape"
  | transpose _ => "Transpose"
  | broadcast _ _ => "Broadcast"
  | concat _ => "Concat"
  | slice _ => "Slice"
  | batchNormalization _ _ _ => "BatchNormalization"
  | localResponseNormalization _ _ _ _ => "LocalResponseNormalization"
  | arithmetic op => op.name
  | pow _ => "Pow"
  | select => "Select"
  | splat _ => "Splat"
  | matMul => "MatMul"
  | batchedReduceAdd => "BatchedReduceAdd"
  | batchedAdd => "BatchedAdd"
  | save => "Save"
  | quantizationProfile _ => "QuantizationProfile"
  | topK _ => "TopK"
  | gather => "Gather"
  | quantize => "Quantize"
  | dequantize => "Dequantize"
  | rescaleQuantized => "RescaleQuantized"

-- The attributes as shown in descriptors, in order.
def attributes : Operator → List (String × String)
  | convolution window depth =>
      [("kernel", window.kernel.text), ("stride", window.stride.text), ("pad", window.pad.text),
        ("depth", depth.text)]
  | pool _ window =>
      [("kernel", window.kernel.text), ("stride", window.stride.text), ("pad", window.pad.text)]
  | reshape dims => [("dims", dims.text)]
  | transpose shuffle => [("shuffle", Dims.text shuffle)]
  | broadcast shape axis => [("shape", shape.text), ("axis", axis.text)]
  | concat axis => [("axis", axis.text)]
  | slice start => [("start", Dims.text start)]
  | batchNormalization channel epsilon momentum =>
      [("channelIdx", channel.text), ("epsilon", epsilon.text), ("momentum", momentum.text)]
  | localResponseNormalization halfWindow alpha beta k =>
      [("halfWindowSize", halfWindow.text), ("alpha", alpha.text), ("beta", beta.text), ("k", k.text)]
  | pow exponent => [("exp", exponent.text)]
  | splat value => [("value", value.text)]
  | quantizationProfile profiled => [("profiledNodeName", profiled)]
  | topK k => [("k", k.text)]
  | _ => []

end Operator

end TensorGraph
