import TensorGraph.Number.Rounding

set_option autoImplicit false

/- Decimal numbers, the nearest binary pattern of a decimal number, and the shortest decimal number
   of a binary pattern: the fewest digits that read back to the pattern and, among those, the nearest. -/
namespace TensorGraph

-- The number `coefficient * 10 ^ exponent`.
structure Decimal where
  coefficient : Nat
  exponent : Int
deriving DecidableEq, Repr

-- Where a value goes that lies halfway between two decimal numbers.
inductive Tie where
  | even
  | up
deriving DecidableEq, Repr

def decimalDigits (n : Nat) : List Char := Nat.toDigits 10 n

namespace Decimal

def numerator (d : Decimal) : Nat := d.coefficient * Nat.pow 10 d.exponent.toNat

def denominator (d : Decimal) : Nat := Nat.pow 10 (-d.exponent).toNat

def digits (d : Decimal) : List Char := decimalDigits d.coefficient

-- The exponent that the number has when its point stands after the first digit.
def leadingExponent (d : Decimal) : Int := d.exponent + d.digits.length - 1

-- The same number without trailing zeros in its coefficient.
def trimmed (coefficient : Nat) (exponent : Int) : Decimal :=
  if coefficient ≠ 0 ∧ coefficient % 10 = 0 then trimmed (coefficient / 10) (exponent + 1)
    else ⟨coefficient, exponent⟩
termination_by coefficient
decreasing_by omega

-- The one form of a number in which nothing can be left out of the coefficient.
def reduced (coefficient : Nat) (exponent : Int) : Decimal :=
  if coefficient = 0 then ⟨0, 0⟩ else trimmed coefficient exponent

end Decimal

-- No binary format in use reaches a decimal exponent of this size in either direction.
def decimalReach : Int := 400

-- The decimal exponent of a positive ratio: the largest `e` with `10 ^ e` at most the ratio.
def decimalExponent (numerator denominator : Nat) : Int :=
  if denominator ≤ numerator then ((decimalDigits (numerator / denominator)).length : Int) - 1
  else -((decimalDigits ((denominator - 1) / numerator)).length : Int)

namespace BinaryFormat

-- The pattern nearest to a decimal number. Numbers beyond reach are settled without their powers of ten.
def nearestDecimal (format : BinaryFormat) (d : Decimal) : Nat :=
  if d.coefficient = 0 then 0
  else if decimalReach < d.leadingExponent then format.infinity
  else if d.leadingExponent < -decimalReach then 0
  else format.nearest d.numerator d.denominator

def readsBack (format : BinaryFormat) (pattern : Nat) (d : Decimal) : Bool :=
  format.nearestDecimal d == pattern

-- The decimal number with the given last place that reads back to the pattern, the nearer of two.
def decimalAt? (format : BinaryFormat) (tie : Tie) (pattern : Nat) (place : Int) : Option Decimal :=
  let numerator := format.units pattern * Nat.pow 10 (-place).toNat
  let denominator := format.scale * Nat.pow 10 place.toNat
  let below := numerator / denominator
  let middle := (2 * below + 1) * denominator
  match format.readsBack pattern ⟨below, place⟩, format.readsBack pattern ⟨below + 1, place⟩ with
  | false, false => none
  | true, false => some ⟨below, place⟩
  | false, true => some ⟨below + 1, place⟩
  | true, true =>
      if 2 * numerator < middle then some ⟨below, place⟩
      else if middle < 2 * numerator then some ⟨below + 1, place⟩
      else
        match tie with
        | .even => some ⟨below + below % 2, place⟩
        | .up => some ⟨below + 1, place⟩

-- The first of the places, coarsest first, at which some decimal number reads back.
def firstDecimal? (format : BinaryFormat) (tie : Tie) (pattern : Nat) (place : Int) :
    Nat → Option Decimal
  | 0 => none
  | tries + 1 =>
      match format.decimalAt? tie pattern place with
      | some d => some d
      | none => firstDecimal? format tie pattern (place - 1) tries

def exactDecimal (format : BinaryFormat) (pattern : Nat) : Decimal :=
  ⟨format.units pattern * Nat.pow 5 format.scaleBits, -(format.scaleBits : Int)⟩

-- Seventeen digits are enough for every format in use.
def shortestDecimal (format : BinaryFormat) (tie : Tie) (pattern : Nat) : Decimal :=
  if pattern = 0 then ⟨0, 0⟩
  else
    let place := decimalExponent (format.units pattern) format.scale
    let found := (format.firstDecimal? tie pattern place 17).getD (format.exactDecimal pattern)
    Decimal.trimmed found.coefficient found.exponent

end BinaryFormat

-- How a decimal number is laid out: which way halves went when its digits were chosen, which leading
-- exponents are written in positional form (all of them when there is no range), and what marks a whole
-- number.
structure DecimalLayout where
  tie : Tie
  positional : Option (Int × Int)
  wholeMark : List Char
deriving DecidableEq, Repr

namespace DecimalLayout

def isPositional (layout : DecimalLayout) (e : Int) : Bool :=
  match layout.positional with
  | none => true
  | some (low, high) => decide (low ≤ e) && decide (e ≤ high)

def positionalText (layout : DecimalLayout) (d : Decimal) : List Char :=
  let digits := d.digits
  if 0 ≤ d.exponent then digits ++ (List.replicate d.exponent.toNat '0' ++ layout.wholeMark)
  else
    let places := (-d.exponent).toNat
    if places < digits.length then digits.take (digits.length - places) ++ '.' ::
      digits.drop (digits.length - places)
    else '0' :: '.' :: (List.replicate (places - digits.length) '0' ++ digits)

def exponentText (e : Int) : List Char :=
  'e' :: (if e < 0 then '-' else '+') :: decimalDigits e.natAbs

def scientificText (d : Decimal) : List Char :=
  match d.digits with
  | [] => []
  | [digit] => digit :: exponentText d.leadingExponent
  | digit :: rest => digit :: '.' :: (rest ++ exponentText d.leadingExponent)

def text (layout : DecimalLayout) (d : Decimal) : List Char :=
  if layout.isPositional d.leadingExponent then layout.positionalText d else scientificText d

end DecimalLayout

end TensorGraph
