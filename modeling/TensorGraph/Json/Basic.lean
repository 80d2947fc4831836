import TensorGraph.Number.Binary32

set_option autoImplicit false

namespace TensorGraph

-- A JSON value. A number without point and exponent is a whole number, which may still be written `-0`.
-- Text that no string can hold, because half of a surrogate pair stands alone in it, is kept as nothing.
inductive Json where
  | null
  | bool (value : Bool)
  | whole (negative : Bool) (magnitude : Nat)
  | real (negative : Bool) (magnitude : Decimal)
  | string (text : Option String)
  | array (items : List Json)
  | object (fields : List (Option String × Json))
deriving Repr

namespace Json

-- Numbers have a point and, from `1e13` on and below `1e-6`, an exponent; halves go to the even
-- neighbour.
def realLayout : DecimalLayout := ⟨.even, some (-6, 12), ['.', '0']⟩

def text (text : String) : Json := .string (some text)

def ofExtent (extent : UInt64) : Json := .whole false extent.toNat

def ofInt (value : Int) : Json := .whole (decide (value < 0)) value.natAbs

-- The number with the fewest digits that reads back; there is none for infinities and NaNs.
def ofBinary32 (x : Binary32) : Json :=
  if x.isFinite then .real x.isNegative (BinaryFormat.single.shortestDecimal realLayout.tie x.magnitude)
    else .null

def record (fields : List (String × Json)) : Json :=
  .object (fields.map fun field => (some field.1, field.2))

-- A tagged value: an object with the tag as its only key.
def tagged (tag : String) (payload : Json) : Json := record [(tag, payload)]

end Json

end TensorGraph
