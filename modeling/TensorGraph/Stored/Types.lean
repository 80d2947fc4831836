import TensorGraph.Json.Format
import TensorGraph.Types.Tensor

set_option autoImplicit false

namespace TensorGraph

variable {J : Type} (format : JsonFormat J)

namespace Element

def tag : Element → String
  | float => "Float"
  | float16 => "Float16"
  | int8Q => "Int8Q"
  | int32Q => "Int32Q"
  | index => "Index"

def ofTag? : String → Option Element
  | "Float" => some float
  | "Float16" => some float16
  | "Int8Q" => some int8Q
  | "Int32Q" => some int32Q
  | "Index" => some index
  | _ => none

def toJson (element : Element) : J := format.text element.tag

def ofJson? (value : J) : Option Element := (format.bareChoice? value).bind ofTag?

end Element

namespace Quantization

def toJson (q : Quantization) : J :=
  format.record [("scale", format.float q.scale), ("offset", format.int32 q.offset)]

def ofJson? (value : J) : Option Quantization :=
  match format.allMembers? ["scale", "offset"] value with
  | some [scale, offset] =>
      match format.float? scale, format.int32? offset with
      | some scale, some offset => some ⟨scale, offset⟩
      | _, _ => none
  | _ => none

def toMember : Option Quantization → J
  | some q => q.toJson format
  | none => format.null

-- A missing quantization is none.
def ofMember? : Option J → Option (Option Quantization)
  | none => some none
  | some value => if format.isNull value then some none else (ofJson? format value).map some

end Quantization

namespace TensorType

def toJson (type : TensorType) : J :=
  format.record [
    ("elem", type.element.toJson format),
    ("dims", format.extents type.dims),
    ("quant", Quantization.toMember format type.quantization)]

def ofJson? (value : J) : Option TensorType :=
  match format.members? ["elem", "dims", "quant"] value with
  | some [some element, some dims, quantization] =>
      match Element.ofJson? format element, format.extents? dims,
        Quantization.ofMember? format quantization with
      | some element, some dims, some quantization => some ⟨element, dims, quantization⟩
      | _, _, _ => none
  | _ => none

end TensorType

end TensorGraph
