import TensorGraph.Operator.Basic
import TensorGraph.Json.Format

set_option autoImplicit false

namespace TensorGraph

variable {J : Type} (format : JsonFormat J)

namespace Arithmetic

def tag : Arithmetic → String
  | add => "Add"
  | sub => "Sub"
  | mul => "Mul"
  | div => "Div"
  | max => "Max"
  | min => "Min"
  | cmpLte => "CmpLte"

def ofTag? : String → Option Arithmetic
  | "Add" => some add
  | "Sub" => some sub
  | "Mul" => some mul
  | "Div" => some div
  | "Max" => some max
  | "Min" => some min
  | "CmpLte" => some cmpLte
  | _ => none

def toJson (op : Arithmetic) : J := format.text op.tag

def ofJson? (value : J) : Option Arithmetic := (format.bareChoice? value).bind ofTag?

end Arithmetic

namespace Window

def fields (window : Window) : List (String × J) :=
  [("kernel", format.extent window.kernel), ("stride", format.extent window.stride),
    ("pad", format.extent window.pad)]

def ofMembers? (kernel stride pad : J) : Option Window :=
  match format.extent? kernel, format.extent? stride, format.extent? pad with
  | some kernel, some stride, some pad => some ⟨kernel, stride, pad⟩
  | _, _, _ => none

def ofJson? (value : J) : Option Window :=
  match format.allMembers? ["kernel", "stride", "pad"] value with
  | some [kernel, stride, pad] => ofMembers? format kernel stride pad
  | _ => none

end Window

namespace Operator

def toJson : Operator → J
  | convolution window depth =>
      format.tagged "Convolution" (format.record (window.fields format ++
        [("depth", format.extent depth)]))
  | pool method window => format.tagged method.name (format.record (window.fields format))
  | reshape dims => format.tagged "Reshape" (format.record [("dims", format.extents dims)])
  | transpose shuffle => format.tagged "Transpose" (format.record [("shuffle", format.extents shuffle)])
  | broadcast shape axis =>
      format.tagged "Broadcast" (format.record [("shape", format.extents shape),
        ("axis", format.extent axis)])
  | concat axis => format.tagged "Concat" (format.record [("axis", format.extent axis)])
  | slice start => format.tagged "Slice" (format.record [("start", format.extents start)])
  | batchNormalization channel epsilon momentum =>
      format.tagged "BatchNormalization" (format.record [
        ("channel_idx", format.extent channel),
        ("epsilon", format.float epsilon),
        ("momentum", format.float momentum)])
  | localResponseNormalization halfWindow alpha beta k =>
      format.tagged "LocalResponseNormalization" (format.record [
        ("half_window_size", format.extent halfWindow),
        ("alpha", format.float alpha),
        ("beta", format.float beta),
        ("k", format.float k)])
  | arithmetic op => format.tagged "Arithmetic" (op.toJson format)
  | pow exponent => format.tagged "Pow" (format.record [("exp", format.float exponent)])
  | splat value => format.tagged "Splat" (format.record [("value", format.float value)])
  | quantizationProfile profiled =>
      format.tagged "QuantizationProfile" (format.record [("profiled_node_name", format.text profiled)])
  | topK k => format.tagged "TopK" (format.record [("k", format.extent k)])
  | operator => format.text operator.name

def ofBareTag? : String → Option Operator
  | "FullyConnected" => some fullyConnected
  | "Relu" => some (activation .relu)
  | "Sigmoid" => some (activation .sigmoid)
  | "Tanh" => some (activation .tanh)
  | "SoftMax" => some softMax
  | "CrossEntropyLoss" => some crossEntropyLoss
  | "Regression" => some regression
  | "Select" => some select
  | "MatMul" => some matMul
  | "BatchedReduceAdd" => some batchedReduceAdd
  | "BatchedAdd" => some batchedAdd
  | "Save" => some save
  | "Gather" => some gather
  | "Quantize" => some quantize
  | "Dequantize" => some dequantize
  | "RescaleQuantized" => some rescaleQuantized
  | _ => none

def readConvolution? (payload : J) : Option Operator :=
  match format.allMembers? ["kernel", "stride", "pad", "depth"] payload with
  | some [kernel, stride, pad, depth] =>
      match Window.ofMembers? format kernel stride pad, format.extent? depth with
      | some window, some depth => some (convolution window depth)
      | _, _ => none
  | _ => none

def readBroadcast? (payload : J) : Option Operator :=
  match format.allMembers? ["shape", "axis"] payload with
  | some [shape, axis] =>
      match format.extents? shape, format.extent? axis with
      | some shape, some axis => some (broadcast shape axis)
      | _, _ => none
  | _ => none

def readBatchNormalization? (payload : J) : Option Operator :=
  match format.allMembers? ["channel_idx", "epsilon", "momentum"] payload with
  | some [channel, epsilon, momentum] =>
      match format.extent? channel, format.float? epsilon, format.float? momentum with
      | some channel, some epsilon, some momentum => some (batchNormalization channel epsilon momentum)
      | _, _, _ => none
  | _ => none

def readLocalResponseNormalization? (payload : J) : Option Operator :=
  match format.allMembers? ["half_window_size", "alpha", "beta", "k"] payload with
  | some [halfWindow, alpha, beta, k] =>
      match format.extent? halfWindow, format.float? alpha, format.float? beta, format.float? k with
      | some halfWindow, some alpha, some beta, some k =>
          some (localResponseNormalization halfWindow alpha beta k)
      | _, _, _, _ => none
  | _ => none

def onlyMember? (key : String) (payload : J) : Option J :=
  match format.allMembers? [key] payload with
  | some [value] => some value
  | _ => none

def ofPayload? (tag : String) (payload : J) : Option Operator :=
  match tag with
  | "Convolution" => readConvolution? format payload
  | "PoolMax" => (Window.ofJson? format payload).map (pool .max)
  | "PoolAvg" => (Window.ofJson? format payload).map (pool .avg)
  | "Reshape" => ((onlyMember? format "dims" payload).bind format.extents?).map reshape
  | "Transpose" => ((onlyMember? format "shuffle" payload).bind format.extents?).map transpose
  | "Broadcast" => readBroadcast? format payload
  | "Concat" => ((onlyMember? format "axis" payload).bind format.extent?).map concat
  | "Slice" => ((onlyMember? format "start" payload).bind format.extents?).map slice
  | "BatchNormalization" => readBatchNormalization? format payload
  | "LocalResponseNormalization" => readLocalResponseNormalization? format payload
  | "Arithmetic" => (Arithmetic.ofJson? format payload).map arithmetic
  | "Pow" => ((onlyMember? format "exp" payload).bind format.float?).map pow
  | "Splat" => ((onlyMember? format "value" payload).bind format.float?).map splat
  | "QuantizationProfile" =>
      ((onlyMember? format "profiled_node_name" payload).bind format.text?).map quantizationProfile
  | "TopK" => ((onlyMember? format "k" payload).bind format.extent?).map topK
  | _ => none

def ofJson? (value : J) : Option Operator :=
  match format.choice? value with
  | none => none
  | some (tag, payload) =>
      match ofBareTag? tag, payload with
      | some operator, _ => if format.isBare payload then some operator else none
      | none, some payload => ofPayload? format tag payload
      | none, none => none

end Operator

end TensorGraph
