import TensorGraph.Network.Basic

set_option autoImplicit false

namespace TensorGraph

abbrev NodeMapping := List (NodeId × NodeId)

namespace NodeMapping

def numberedFrom (start : Nat) (nodes : List Node) : NodeMapping :=
  nodes.zipIdx.map fun entry => (entry.1.id, ⟨start + entry.2⟩)

-- Edges to nodes go to the copies, edges to live variables stay.
def edge (mapping : NodeMapping) (storage : Variables) (node : Node) (i : Nat) (edge : Edge) :
    Except GraphFault Edge :=
  match edge.producer with
  | .node id =>
      match mapping.lookup id with
      | some copy => .ok { edge with producer := .node copy }
      | none => .error (.missingMapping node.name i edge.producer)
  | .var id =>
      match storage.get? id with
      | some _ => .ok edge
      | none => .error (.missingMapping node.name i edge.producer)

def edges (mapping : NodeMapping) (storage : Variables) (node : Node) (i : Nat) :
    List Edge → Except GraphFault (List Edge)
  | [] => .ok []
  | edge :: rest => do
      let copy ← mapping.edge storage node i edge
      let copies ← mapping.edges storage node (i + 1) rest
      .ok (copy :: copies)

-- The predicate counts as the input after the last.
def predicate (mapping : NodeMapping) (storage : Variables) (node : Node) :
    Except GraphFault (Option Edge) :=
  match node.predicate with
  | none => .ok none
  | some edge => (mapping.edge storage node node.inputs.length edge).map some

def node (mapping : NodeMapping) (storage : Variables) (cloned : Node) (id : NodeId) :
    Except GraphFault Node := do
  let inputs ← mapping.edges storage cloned 0 cloned.inputs
  let predicate ← mapping.predicate storage cloned
  .ok { cloned with id := id, inputs := inputs, predicate := predicate }

def nodes (mapping : NodeMapping) (storage : Variables) (start : Nat) :
    List Node → Except GraphFault (List Node)
  | [] => .ok []
  | cloned :: rest => do
      let copy ← mapping.node storage cloned ⟨start⟩
      let copies ← mapping.nodes storage (start + 1) rest
      .ok (copy :: copies)

end NodeMapping

namespace Network

-- Copies the nodes of a function under fresh identifiers into a new function. Names and variables are
-- shared.
def cloneFunction (network : Network) (source : FunctionId) (name : String) :
    Outcome (FunctionId × NodeMapping) :=
  if network.hasFunction name then (.error (.duplicateFunction name), network)
  else
    match network.function? source with
    | none => (.error (.unknownFunction source), network)
    | some cloned =>
        let mapping := NodeMapping.numberedFrom network.nextNode cloned.nodes
        let numbered := { network with nextNode := network.nextNode + cloned.size }
        match mapping.nodes network.storage network.nextNode cloned.nodes with
        | .error fault => (.error fault, numbered)
        | .ok copies =>
            let id : FunctionId := ⟨network.functions.length⟩
            let copy := copies.foldl Function.push { id := id, name := name }
            (.ok (id, mapping),
              report { numbered with functions := network.functions ++ [copy] }
                (.clonedFunction cloned.name name copy.size))

end Network

end TensorGraph
