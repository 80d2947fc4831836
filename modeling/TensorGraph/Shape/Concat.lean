import TensorGraph.Shape.Basic

set_option autoImplicit false

namespace TensorGraph

namespace Dims

-- Equal extents on every axis but one; `position` is the axis of the first entries.
def agreeFrom (position axis : Nat) : Dims → Dims → Bool
  | a :: restA, b :: restB =>
      (decide (position = axis) || a == b) && agreeFrom (position + 1) axis restA restB
  | _, _ => true

-- Equal ranks, and equal extents on every axis but one.
def agreeExcept (axis : Nat) (a b : Dims) : Bool := a.length == b.length && agreeFrom 0 axis a b

-- The summed extent on the axis of all shapes, each of which has to agree with the first elsewhere.
def stackedExtent (first : Dims) (axis : Extent) : Nat → Extent → List Dims → Except ShapeFault Extent
  | _, total, [] => .ok total
  | position, total, dims :: rest =>
      if first.agreeExcept axis.toNat dims then
        match total.add? (dims.getD axis.toNat 0) with
        | some total => stackedExtent first axis (position + 1) total rest
        | none => .error (.concatOverflow axis)
      else .error (.concatShape position dims first axis)

-- The shape of tensors of the given shapes stacked along an axis.
def concat (axis : Extent) : List Dims → Except ShapeFault Dims
  | [] => .error .nothingToConcat
  | first :: rest =>
      if first.length ≤ axis.toNat then .error (.concatAxis axis first.length)
      else (stackedExtent first axis 0 0 (first :: rest)).map fun total => first.set axis.toNat total

end Dims

end TensorGraph
