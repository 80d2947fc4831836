import TensorGraph.Number.Extent

set_option autoImplicit false

namespace TensorGraph

inductive Element where
  | float
  | float16
  | int8Q
  | int32Q
  | index
deriving DecidableEq, Repr

namespace Element

def isQuantized : Element → Bool
  | int8Q | int32Q => true
  | _ => false

def isFloat : Element → Bool
  | float | float16 => true
  | _ => false

def bytes : Element → Nat
  | float | int32Q => 4
  | float16 => 2
  | int8Q => 1
  | index => 8

def name : Element → String
  | float => "float"
  | float16 => "float16"
  | int8Q => "i8q"
  | int32Q => "i32q"
  | index => "index"

end Element

end TensorGraph
