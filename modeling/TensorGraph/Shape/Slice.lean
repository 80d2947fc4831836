import TensorGraph.Shape.Basic

set_option autoImplicit false

namespace TensorGraph

namespace Dims

-- The lengths of non-empty ranges, one for each axis, that lie inside the extents.
def rangeLengths (axis : Nat) : List Extent → List Extent → Dims → Except ShapeFault Dims
  | start :: starts, stop :: stops, extent :: dims =>
      if start < stop ∧ stop ≤ extent then
        (rangeLengths (axis + 1) starts stops dims).map fun lengths => (stop - start) :: lengths
      else .error (.boundOrder axis start stop extent)
  | _, _, _ => .ok []

-- The shape of the part of a tensor from `starts` up to but not including `stops`.
def slice (dims : Dims) (starts stops : List Extent) : Except ShapeFault Dims :=
  if starts.length ≠ stops.length then .error (.boundCounts starts.length stops.length)
  else if starts.length ≠ dims.length then .error (.boundRank starts.length dims.length)
  else rangeLengths 0 starts stops dims

-- Where ranges of the given lengths end, unless an end needs more than 64 bits.
def rangeStops? : List Extent → Dims → Option (List Extent)
  | start :: starts, length :: lengths =>
      match start.add? length, rangeStops? starts lengths with
      | some stop, some stops => some (stop :: stops)
      | _, _ => none
  | _, _ => some []

end Dims

end TensorGraph
