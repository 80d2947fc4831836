import TensorGraph.Shape.Basic

set_option autoImplicit false

namespace TensorGraph

-- A batch of images: count, height, width and channels.
structure Images where
  count : Extent
  height : Extent
  width : Extent
  channels : Extent
deriving DecidableEq, Repr

def Images.ofDims : Dims → Except ShapeFault Images
  | [count, height, width, channels] => .ok ⟨count, height, width, channels⟩
  | dims => .error (.notImages dims)

-- A square window that slides over padded images.
structure Window where
  kernel : Extent
  stride : Extent
  pad : Extent
deriving DecidableEq, Repr

namespace Window

-- An extent with the padding added on both sides.
def padded (window : Window) (extent : Extent) : Except ShapeFault Extent :=
  match (Extent.mul? window.pad 2).bind (Extent.add? · extent) with
  | some total => .ok total
  | none => .error (.paddingOverflow window.pad extent)

-- The number of positions that the window takes along an axis of the given padded extent.
def positions (window : Window) (total : Extent) : Extent := (total - window.kernel) / window.stride + 1

-- The height and width that are left after the window has slid over the images.
def output (window : Window) (images : Images) : Except ShapeFault (Extent × Extent) :=
  if window.kernel = 0 then .error .emptyKernel
  else if window.stride = 0 then .error .emptyStride
  else if images.height < window.kernel ∨ images.width < window.kernel then
    .error (.smallerThanKernel images.height images.width window.kernel)
  else
    match window.padded images.height with
    | .error fault => .error fault
    | .ok height =>
        match window.padded images.width with
        | .error fault => .error fault
        | .ok width => .ok (window.positions height, window.positions width)

end Window

end TensorGraph
