import TensorGraph.Number.Decimal

set_option autoImplicit false

namespace TensorGraph

-- A 32-bit floating-point number, held as its bit pattern: equality tells apart the two zeros and the
-- NaNs.
structure Binary32 where
  bits : UInt32
deriving DecidableEq, Repr

namespace Binary32

def signWeight : Nat := 2147483648

def isNegative (x : Binary32) : Bool := decide (signWeight ≤ x.bits.toNat)

def magnitude (x : Binary32) : Nat := x.bits.toNat % signWeight

def ofMagnitude (negative : Bool) (magnitude : Nat) : Binary32 :=
  ⟨UInt32.ofNat (if negative then signWeight + magnitude else magnitude)⟩

def isNaN (x : Binary32) : Bool := decide (BinaryFormat.single.infinity < x.magnitude)

def isFinite (x : Binary32) : Bool := decide (x.magnitude < BinaryFormat.single.infinity)

-- Numeric comparison: a NaN differs from everything and the two zeros agree.
def sameNumber (x y : Binary32) : Bool :=
  !x.isNaN && !y.isNaN && (x.bits == y.bits || (x.magnitude == 0 && y.magnitude == 0))

def ofNat (n : Nat) : Binary32 := ofMagnitude false (BinaryFormat.single.nearest n 1)

def zero : Binary32 := ofNat 0

-- The number nearest to a decimal number, unless only infinity is.
def ofDecimal? (negative : Bool) (d : Decimal) : Option Binary32 :=
  let nearest := BinaryFormat.single.nearestDecimal d
  if nearest < BinaryFormat.single.infinity then some (ofMagnitude negative nearest) else none

-- A decimal number rounded to double precision first and then to single precision.
def ofDecimalThroughDouble (negative : Bool) (d : Decimal) : Binary32 :=
  let wide := BinaryFormat.double.nearestDecimal d
  if wide < BinaryFormat.double.infinity then
    ofMagnitude negative (BinaryFormat.single.nearest
      (BinaryFormat.double.units wide) BinaryFormat.double.scale)
  else ofMagnitude negative BinaryFormat.single.infinity

def signed (x : Binary32) (text : List Char) : List Char := if x.isNegative then '-' :: text else text

def finiteText (layout : DecimalLayout) (x : Binary32) : List Char :=
  x.signed (layout.text (BinaryFormat.single.shortestDecimal layout.tie x.magnitude))

-- Descriptors never use an exponent and leave whole numbers bare; halves go up.
def descriptorLayout : DecimalLayout := ⟨.up, none, []⟩

def text (x : Binary32) : String :=
  if x.isNaN then "NaN"
  else if x.isFinite then String.ofList (x.finiteText descriptorLayout)
  else String.ofList (x.signed ['i', 'n', 'f'])

end Binary32

end TensorGraph
