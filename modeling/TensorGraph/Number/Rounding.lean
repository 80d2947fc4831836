set_option autoImplicit false

/- Binary floating-point formats. A finite magnitude of a format is a natural number, its bit pattern
   without the sign: patterns are ordered as the magnitudes they stand for, so rounding to nearest is a
   function from ratios of natural numbers to patterns. -/
namespace TensorGraph

-- A binary format: how many bits of the significand are stored, how far below one the last bit of the
-- smallest magnitudes lies, and the pattern that stands for infinity.
structure BinaryFormat where
  fractionBits : Nat
  scaleBits : Nat
  infinity : Nat
deriving DecidableEq, Repr

namespace BinaryFormat

def single : BinaryFormat := ⟨23, 149, 0x7f800000⟩

def double : BinaryFormat := ⟨52, 1074, 0x7ff0000000000000⟩

end BinaryFormat

-- The quotient rounded to the nearest natural number, a half going to the even neighbour.
def roundedQuotient (numerator denominator : Nat) : Nat :=
  let quotient := numerator / denominator
  let doubled := 2 * (numerator % denominator)
  if doubled < denominator then quotient
  else if doubled = denominator then quotient + quotient % 2
  else quotient + 1

-- The binary exponent of a positive ratio: the largest `e` with `2 ^ e` at most the ratio.
def binaryExponent (numerator denominator : Nat) : Int :=
  let guess : Int := (numerator.log2 : Int) - (denominator.log2 : Int)
  if numerator * Nat.pow 2 (-guess).toNat < denominator * Nat.pow 2 guess.toNat then guess - 1 else guess

namespace BinaryFormat

-- How many units of the smallest magnitude, as a power of two, the last bit of the result is worth.
def shiftOf (format : BinaryFormat) (numerator denominator : Nat) : Nat :=
  (binaryExponent numerator denominator - format.fractionBits + format.scaleBits).toNat

-- The pattern nearest to a ratio, ties going to the even pattern, infinity when no finite one is near.
def nearest (format : BinaryFormat) (numerator denominator : Nat) : Nat :=
  if numerator = 0 then 0 else
  let shift := format.shiftOf numerator denominator
  let significand :=
    roundedQuotient (numerator * Nat.pow 2 format.scaleBits) (denominator * Nat.pow 2 shift)
  min (shift * Nat.pow 2 format.fractionBits + significand) format.infinity

-- The number of smallest magnitudes that a finite pattern stands for.
def units (format : BinaryFormat) (pattern : Nat) : Nat :=
  let leading := Nat.pow 2 format.fractionBits
  if pattern < leading then pattern
  else (leading + pattern % leading) * Nat.pow 2 (pattern / leading - 1)

-- What the units are divided by to give the value.
def scale (format : BinaryFormat) : Nat := Nat.pow 2 format.scaleBits

end BinaryFormat

end TensorGraph
