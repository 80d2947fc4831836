import TensorGraph.Types.Tensor

set_option autoImplicit false

namespace TensorGraph

structure TypeHandle where
  index : Nat
deriving DecidableEq, Repr

def TypeHandle.text (handle : TypeHandle) : String := "TypeRef(" ++ toString handle.index ++ ")"

-- The distinct types in use, in the order they were first asked for, and the handle of each.
structure TypePool where
  types : List TensorType := []
  handles : List (TensorType × TypeHandle) := []
deriving DecidableEq, Repr

namespace TypePool

def size (pool : TypePool) : Nat := pool.types.length

def get? (pool : TypePool) (handle : TypeHandle) : Option TensorType := pool.types[handle.index]?

-- The handle of a type, which is added at the end when it is new.
def intern (pool : TypePool) (type : TensorType) : TypeHandle × TypePool :=
  match pool.handles.lookup type with
  | some handle => (handle, pool)
  | none =>
      let handle : TypeHandle := ⟨pool.types.length⟩
      (handle, { types := pool.types ++ [type], handles := (type, handle) :: pool.handles })

-- The handles of several types, interned from the left.
def internAll (pool : TypePool) : List TensorType → List TypeHandle × TypePool
  | [] => ([], pool)
  | type :: rest =>
      let first := pool.intern type
      let others := first.2.internAll rest
      (first.1 :: others.1, others.2)

-- The handle of the type behind `base` with another shape, unless the pool never issued `base`.
def reshape? (pool : TypePool) (base : TypeHandle) (dims : Dims) : Option (TypeHandle × TypePool) :=
  (pool.get? base).map fun type => pool.intern (type.withDims dims)

def entries (pool : TypePool) : List (TypeHandle × TensorType) :=
  pool.types.zipIdx.map fun entry => (⟨entry.2⟩, entry.1)

-- The text of the type behind a handle, or the given text when there is none.
def textOf (pool : TypePool) (unknown : String) (handle : TypeHandle) : String :=
  match pool.get? handle with
  | some type => type.text
  | none => unknown

end TypePool

end TensorGraph
