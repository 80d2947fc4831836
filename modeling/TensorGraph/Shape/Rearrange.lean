import TensorGraph.Shape.Basic

set_option autoImplicit false

namespace TensorGraph

-- Whether every entry names an axis of the rank and none comes twice.
def distinctAxes (rank : Nat) : List Extent → Bool
  | [] => true
  | axis :: rest => decide (axis.toNat < rank) && !rest.contains axis && distinctAxes rank rest

namespace Dims

-- Axis `i` of the result is axis `shuffle[i]` of the input; the shuffle has to be a permutation of the
-- axes.
def transpose (dims : Dims) (shuffle : List Extent) : Except ShapeFault Dims :=
  if shuffle.length ≠ dims.length then .error (.shuffleRank shuffle.length dims.length)
  else if distinctAxes dims.length shuffle then .ok (shuffle.map fun axis => dims.getD axis.toNat 0)
  else .error (.notPermutation shuffle)

-- Rows of the data, laid out as the indices are.
def gather (data indices : Dims) : Except ShapeFault Dims :=
  match data with
  | [] => .error .gatheredScalar
  | _ :: row => .ok (indices ++ row)

-- The innermost axis cut down to the `k` largest entries.
def topK (dims : Dims) (k : Extent) : Except ShapeFault Dims :=
  match dims.getLast? with
  | none => .error .topKScalar
  | some extent => if extent < k then .error (.topKExtent k extent) else .ok (dims.dropLast ++ [k])

end Dims

end TensorGraph
