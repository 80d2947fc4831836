import TensorGraph.Number.Extent

set_option autoImplicit false

namespace TensorGraph

-- The extents of a tensor, outermost axis first.
abbrev Dims := List Extent

def bracketed (items : List String) : String := "[" ++ String.intercalate ", " items ++ "]"

namespace Dims

def text (dims : Dims) : String := bracketed (dims.map Extent.text)

-- The product of the extents, taken from the left, unless some partial product needs more than 64 bits.
def count? (dims : Dims) : Option Extent := dims.foldlM Extent.mul? 1

-- The product of the extents, taken from the left, each partial product capped at the largest extent.
def saturatingCount (dims : Dims) : Extent := dims.foldl Extent.saturatingMul 1

end Dims

inductive ShapeFault where
  | notImages (dims : Dims)
  | uncountable (dims : Dims)
  | emptyKernel
  | emptyStride
  | smallerThanKernel (height width kernel : Extent)
  | paddingOverflow (pad extent : Extent)
  | flattenedScalar
  | nothingToConcat
  | concatAxis (axis : Extent) (rank : Nat)
  | concatShape (position : Nat) (dims first : Dims) (axis : Extent)
  | concatOverflow (axis : Extent)
  | boundCounts (starts stops : Nat)
  | boundRank (bounds rank : Nat)
  | boundOrder (axis : Nat) (start stop extent : Extent)
  | shuffleRank (entries rank : Nat)
  | notPermutation (shuffle : List Extent)
  | gatheredScalar
  | topKScalar
  | topKExtent (k extent : Extent)
deriving DecidableEq, Repr

namespace ShapeFault

def message : ShapeFault → String
  | notImages dims => "expected an NHWC tensor of rank 4, got " ++ dims.text
  | uncountable dims => "element count of " ++ dims.text ++ " overflows"
  | emptyKernel => "kernel must be positive"
  | emptyStride => "stride must be positive"
  | smallerThanKernel height width kernel =>
      "spatial extent " ++ height.text ++ "x" ++ width.text ++ " is smaller than kernel " ++ kernel.text
  | paddingOverflow pad extent => "padding " ++ pad.text ++ " overflows spatial extent " ++ extent.text
  | flattenedScalar => "cannot flatten a rank-0 shape"
  | nothingToConcat => "concat needs at least one input"
  | concatAxis axis rank => "axis " ++ axis.text ++ " out of range for rank " ++ toString rank
  | concatShape position dims first axis =>
      "input " ++ toString position ++ " has shape " ++ dims.text ++
        ", incompatible with " ++ first.text ++ " outside axis " ++ axis.text
  | concatOverflow axis => "concatenated extent on axis " ++ axis.text ++ " overflows"
  | boundCounts starts stops =>
      "begin has " ++ toString starts ++ " entries but end has " ++ toString stops
  | boundRank bounds rank =>
      "slice bounds have " ++ toString bounds ++ " entries but input rank is " ++ toString rank
  | boundOrder axis start stop extent =>
      "axis " ++ toString axis ++ ": bounds [" ++ start.text ++ ", " ++ stop.text ++
        ") do not fit extent " ++ extent.text
  | shuffleRank entries rank =>
      "shuffle has " ++ toString entries ++ " entries but input rank is " ++ toString rank
  | notPermutation shuffle => "shuffle " ++ Dims.text shuffle ++ " is not a permutation"
  | gatheredScalar => "gather data must have rank >= 1"
  | topKScalar => "top-k input must have rank >= 1"
  | topKExtent k extent => "k = " ++ k.text ++ " exceeds innermost extent " ++ extent.text

end ShapeFault

namespace Dims

def count (dims : Dims) : Except ShapeFault Extent :=
  match dims.count? with
  | some count => .ok count
  | none => .error (.uncountable dims)

-- The first extent and the element count of the rest.
def flattened : Dims → Except ShapeFault (Extent × Extent)
  | [] => .error .flattenedScalar
  | batch :: rest => (Dims.count rest).map fun features => (batch, features)

end Dims

end TensorGraph
