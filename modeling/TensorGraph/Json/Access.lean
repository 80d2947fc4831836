import TensorGraph.Json.Format
import TensorGraph.Json.Reader
import TensorGraph.Json.Writer

set_option autoImplicit false

/- How values are looked into. The keys of a record may come in any order, others being ignored, or it is
   a list of all its members. -/
namespace TensorGraph

namespace Json

-- The only value under a key, when there is at most one; nothing fits when there are more.
def member? (fields : List (Option String × Json)) (key : String) : Option (Option Json) :=
  match fields.filter fun field => field.1 == some key with
  | [] => some none
  | [field] => some (some field.2)
  | _ => none

-- The members of a record in the order of their keys.
def members? (keys : List String) : Json → Option (List (Option Json))
  | .object fields => if fields.any fun field => field.1.isNone then none else keys.mapM (member? fields)
  | .array items => if items.length = keys.length then some (items.map some) else none
  | _ => none

-- The tag of a choice, and what it carries.
def choice? : Json → Option (String × Option Json)
  | .string (some tag) => some (tag, none)
  | .object [(some tag, payload)] => some (tag, some payload)
  | _ => none

def extent? : Json → Option Extent
  | .whole false n => if n < UInt64.size then some (UInt64.ofNat n) else none
  | _ => none

def list? : Json → Option (List Json)
  | .array items => some items
  | _ => none

def isNull : Json → Bool
  | .null => true
  | _ => false

-- An identifier: a whole number of 32 bits.
def identifier? : Json → Option Nat
  | .whole false n => if n < UInt32.size then some n else none
  | _ => none

def int32? : Json → Option Int32
  | .whole false n => if n < 2147483648 then some (Int32.ofNat n) else none
  | .whole true n => if 0 < n ∧ n ≤ 2147483648 then some (-Int32.ofNat n) else none
  | _ => none

-- Whether a whole number is negative and its magnitude takes 64 bits, which leaves no bit for the sign.
def isWideNegative (negative : Bool) (n : Nat) : Bool :=
  negative && decide (9223372036854775808 < n) && decide (n < UInt64.size)

-- The nearest single-precision number, unless it is infinite. A whole number that is no 64-bit word only
-- because of its sign is rounded to double precision before.
def binary32? : Json → Option Binary32
  | .whole negative n =>
      if isWideNegative negative n then some (Binary32.ofDecimalThroughDouble negative ⟨n, 0⟩)
      else Binary32.ofDecimal? negative ⟨n, 0⟩
  | .real negative d => Binary32.ofDecimal? negative d
  | _ => none

def string? : Json → Option String
  | .string text => text
  | _ => none

def format : JsonFormat Json where
  null := .null
  text := .text
  extent := .ofExtent
  identifier := .whole false
  int32 n := .ofInt n.toInt
  float := .ofBinary32
  number := .real
  list := .array
  record := .record
  tagged := .tagged
  isNull := isNull
  text? := string?
  extent? := extent?
  identifier? := identifier?
  int32? := int32?
  float? := binary32?
  list? := list?
  members? := members?
  choice? := choice?
  write := compact
  read? := read?

end Json

end TensorGraph
