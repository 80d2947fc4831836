import TensorGraph.Number.Binary32
import TensorGraph.Shape.Basic
import TensorGraph.Types.Element

set_option autoImplicit false

namespace TensorGraph

-- The real value of an entry `q` is `scale * (q - offset)`. Two scales are the same when their bits are.
structure Quantization where
  scale : Binary32
  offset : Int32
deriving DecidableEq, Repr

structure TensorType where
  element : Element
  dims : Dims
  quantization : Option Quantization
deriving DecidableEq, Repr

namespace TensorType

def plain (element : Element) (dims : Dims) : TensorType := ⟨element, dims, none⟩

def quantized (element : Element) (dims : Dims) (scale : Binary32) (offset : Int32) : TensorType :=
  ⟨element, dims, some ⟨scale, offset⟩⟩

-- The type of results that carry no value: a float scalar.
def void : TensorType := plain .float []

def withDims (type : TensorType) (dims : Dims) : TensorType := { type with dims := dims }

def rank (type : TensorType) : Nat := type.dims.length

def isQuantized (type : TensorType) : Bool := type.quantization.isSome

-- The number of entries, the largest extent standing for all larger numbers.
def size (type : TensorType) : Extent := type.dims.saturatingCount

def size? (type : TensorType) : Option Extent := type.dims.count?

def sameShapeAndElement (a b : TensorType) : Bool := a.element == b.element && a.dims == b.dims

def text (type : TensorType) : String :=
  let shape := type.element.name ++ "<" ++ String.intercalate " x " (type.dims.map Extent.text) ++ ">"
  match type.quantization with
  | none => shape
  | some q => shape ++ "[S:" ++ q.scale.text ++ " O:" ++ toString q.offset.toInt ++ "]"

end TensorType

end TensorGraph
