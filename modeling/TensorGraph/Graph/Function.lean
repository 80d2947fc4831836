import TensorGraph.Graph.Node

set_option autoImplicit false

namespace TensorGraph

-- A named list of nodes in the order they were added, with the position of each.
structure Function where
  id : FunctionId
  name : String
  nodes : List Node := []
  positions : List (NodeId × Nat) := []
deriving DecidableEq, Repr

namespace Function

def size (function : Function) : Nat := function.nodes.length

def contains (function : Function) (id : NodeId) : Bool := (function.positions.lookup id).isSome

def node? (function : Function) (id : NodeId) : Option Node :=
  match function.positions.lookup id with
  | some position => function.nodes[position]?
  | none => none

def named? (function : Function) (name : String) : Option Node :=
  function.nodes.find? fun node => node.name == name

def push (function : Function) (node : Node) : Function :=
  { function with
    nodes := function.nodes ++ [node]
    positions := (node.id, function.nodes.length) :: function.positions }

-- Where an entry stands after the one at `gap` has left.
def closedUp (gap position : Nat) : Nat := if gap < position then position - 1 else position

def erase (function : Function) (id : NodeId) : Function :=
  match function.positions.lookup id with
  | some gap =>
      { function with
        nodes := function.nodes.eraseIdx gap
        positions := (function.positions.filter fun entry => entry.1 != id).map fun entry =>
          (entry.1, closedUp gap entry.2) }
  | none => function

def edit (function : Function) (id : NodeId) (change : Node → Node) : Function :=
  match function.positions.lookup id with
  | some position => { function with nodes := function.nodes.modify position change }
  | none => function

end Function

end TensorGraph
