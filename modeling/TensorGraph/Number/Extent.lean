set_option autoImplicit false

namespace TensorGraph

-- A dimension, a count of elements or an operator parameter: an unsigned 64-bit number.
abbrev Extent := UInt64

namespace Extent

def largest : Extent := 18446744073709551615

def add? (a b : Extent) : Option Extent := if a.toNat + b.toNat < UInt64.size then some (a + b) else none

def mul? (a b : Extent) : Option Extent := if a.toNat * b.toNat < UInt64.size then some (a * b) else none

-- The product, or the largest extent when the product needs more than 64 bits.
def saturatingMul (a b : Extent) : Extent := (mul? a b).getD largest

def text (a : Extent) : String := toString a.toNat

end Extent

end TensorGraph
