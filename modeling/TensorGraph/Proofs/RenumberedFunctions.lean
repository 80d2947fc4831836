import Mathlib.Data.List.InsertIdx
import TensorGraph.Network.Clone
import TensorGraph.Proofs.RenumberedLayers

set_option autoImplicit false

namespace TensorGraph

def Function.renumbered (image : NodeId → NodeId) (function : Function) : Function :=
  { function with
    nodes := function.nodes.map (Node.renumbered image)
    positions := function.positions.map fun entry => (image entry.1, entry.2) }

def NodeMapping.renumbered (image : NodeId → NodeId) (mapping : NodeMapping) : NodeMapping :=
  mapping.map fun entry => (image entry.1, image entry.2)

theorem modify_map {α β : Type} (convert : α → β) (items : List α) (i : Nat) (change : α → α)
    (other : β → β)
    (commutes : ∀ item, items[i]? = some item → other (convert item) = convert (change item)) :
    (items.map convert).modify i other = (items.modify i change).map convert := by
  apply List.ext_getElem?
  intro place
  rw [List.getElem?_modify, List.getElem?_map, List.getElem?_map, List.getElem?_modify]
  by_cases here : i = place
  · subst place
    simp only [if_true]
    cases access : items[i]? with
    | none => rfl
    | some item => exact congrArg some (commutes item access)
  · simp only [if_neg here]
    cases items[place]? with
    | none => rfl
    | some item => rfl

section Renumbering

variable (image : NodeId → NodeId) (injective : Function.Injective image)

include injective

theorem renumbered_key_lookup {α β : Type} (change : α → β) (table : List (NodeId × α)) (id : NodeId) :
    (table.map fun entry => (image entry.1, change entry.2)).lookup (image id) =
      (table.lookup id).map change := by
  induction table with
  | nil => rfl
  | cons entry rest ih =>
      rw [List.map_cons, List.lookup_cons, List.lookup_cons]
      by_cases same : id = entry.1
      · simp [same]
      · simp only [beq_false_of_ne same, beq_false_of_ne (mt (@injective id entry.1) same)]
        exact ih

theorem renumbered_position (function : Function) (id : NodeId) :
    (function.renumbered image).positions.lookup (image id) = function.positions.lookup id := by
  rw [Function.renumbered, renumbered_key_lookup image injective (fun position => position)]
  exact Option.map_id'

theorem renumbered_node (function : Function) (id : NodeId) :
    (function.renumbered image).node? (image id) = (function.node? id).map (Node.renumbered image) := by
  rw [Function.node?, Function.node?, renumbered_position image injective]
  cases function.positions.lookup id with
  | none => rfl
  | some position => exact List.getElem?_map

omit injective in
theorem renumbered_push (function : Function) (node : Node) :
    (function.renumbered image).push (node.renumbered image) =
      (function.push node).renumbered image := by
  simp [Function.push, Function.renumbered, Node.renumbered]

omit injective in
theorem renumbered_push_all (nodes : List Node) (function : Function) :
    (nodes.map (Node.renumbered image)).foldl Function.push (function.renumbered image) =
      (nodes.foldl Function.push function).renumbered image := by
  induction nodes generalizing function with
  | nil => rfl
  | cons node rest ih =>
      rw [List.map_cons, List.foldl_cons, List.foldl_cons, renumbered_push]
      exact ih (function.push node)

theorem renumbered_erase (function : Function) (id : NodeId) :
    (function.renumbered image).erase (image id) = (function.erase id).renumbered image := by
  unfold Function.erase
  rw [renumbered_position image injective]
  cases function.positions.lookup id with
  | none => rfl
  | some gap =>
      have kept : ∀ entry : NodeId × Nat, (image entry.1 != image id) = (entry.1 != id) := by
        intro entry
        rw [Bool.eq_iff_iff, bne_iff_ne, bne_iff_ne]
        exact injective.ne_iff
      simp [Function.renumbered, List.eraseIdx_map, List.filter_map, Function.comp_def, kept]

theorem renumbered_edit (function : Function) (id : NodeId) (change other : Node → Node)
    (commutes : ∀ node : Node, other (node.renumbered image) = (change node).renumbered image) :
    (function.renumbered image).edit (image id) other = (function.edit id change).renumbered image := by
  unfold Function.edit
  rw [renumbered_position image injective]
  cases function.positions.lookup id with
  | none => rfl
  | some position =>
      have nodes := modify_map (Node.renumbered image) function.nodes position change other
        fun node _ => commutes node
      simp only [Function.renumbered, nodes]

theorem renumbered_reflects (source copy : Scope) (types : copy.types = source.types)
    (storage : copy.storage = source.storage)
    (function : copy.function = source.function.renumbered image) :
    source.Reflects image (fun _ => True) copy where
  types := types
  storage := storage
  nodes := congrArg Function.nodes function
  apart _ _ _ _ same := injective same
  lookup id _ := function ▸ renumbered_node image injective source.function id
  listed _ _ := trivial
  closed _ _ edge _ := among_all edge.producer

section Copying

variable (mapping : NodeMapping) (storage : Variables)

theorem renumbered_copied_edge (node : Node) (i : Nat) (edge : Edge) :
    (mapping.renumbered image).edge storage (node.renumbered image) i (edge.renumbered image) =
      retold image (Edge.renumbered image) (mapping.edge storage node i edge) := by
  obtain ⟨producer, slot⟩ := edge
  cases producer with
  | var id =>
      simp only [Edge.renumbered, Producer.renumbered, NodeMapping.edge]
      cases storage.get? id with
      | none => rfl
      | some v => rfl
  | node id =>
      simp only [Edge.renumbered, Producer.renumbered, NodeMapping.edge, NodeMapping.renumbered,
        renumbered_key_lookup image injective]
      cases mapping.lookup id with
      | none => rfl
      | some copy => rfl

theorem renumbered_copied_edges (node : Node) (i : Nat) (edges : List Edge) :
    (mapping.renumbered image).edges storage (node.renumbered image) i
      (edges.map (Edge.renumbered image)) =
      retold image (List.map (Edge.renumbered image)) (mapping.edges storage node i edges) := by
  induction edges generalizing i with
  | nil => rfl
  | cons edge rest ih =>
      rw [List.map_cons, NodeMapping.edges, NodeMapping.edges,
        renumbered_copied_edge image injective, ih (i + 1)]
      cases mapping.edge storage node i edge with
      | error fault => rfl
      | ok copy =>
          cases mapping.edges storage node (i + 1) rest with
          | error fault => rfl
          | ok copies => rfl

theorem renumbered_copied_predicate (node : Node) :
    (mapping.renumbered image).predicate storage (node.renumbered image) =
      retold image (Option.map (Edge.renumbered image)) (mapping.predicate storage node) := by
  have width : (node.renumbered image).inputs.length = node.inputs.length := List.length_map _
  have guard : (node.renumbered image).predicate = node.predicate.map (Edge.renumbered image) := rfl
  rw [NodeMapping.predicate, NodeMapping.predicate, guard, width]
  cases node.predicate with
  | none => rfl
  | some edge =>
      simp only [Option.map_some, renumbered_copied_edge image injective]
      cases mapping.edge storage node node.inputs.length edge with
      | error fault => rfl
      | ok copy => rfl

theorem renumbered_copied_node (node : Node) (id : NodeId) :
    (mapping.renumbered image).node storage (node.renumbered image) (image id) =
      retold image (Node.renumbered image) (mapping.node storage node id) := by
  have reads : (node.renumbered image).inputs = node.inputs.map (Edge.renumbered image) := rfl
  rw [NodeMapping.node, NodeMapping.node, reads, renumbered_copied_edges image injective,
    renumbered_copied_predicate image injective]
  cases mapping.edges storage node 0 node.inputs with
  | error fault => rfl
  | ok inputs =>
      cases mapping.predicate storage node with
      | error fault => rfl
      | ok predicate => rfl

variable (start other : Nat) (numbers : ∀ k, image ⟨start + k⟩ = ⟨other + k⟩)

include numbers

theorem renumbered_copied_nodes (nodes : List Node) (k : Nat) :
    (mapping.renumbered image).nodes storage (other + k) (nodes.map (Node.renumbered image)) =
      retold image (List.map (Node.renumbered image)) (mapping.nodes storage (start + k) nodes) := by
  induction nodes generalizing k with
  | nil => rfl
  | cons node rest ih =>
      have later := ih (k + 1)
      rw [← Nat.add_assoc, ← Nat.add_assoc] at later
      rw [List.map_cons, NodeMapping.nodes, NodeMapping.nodes, ← numbers k,
        renumbered_copied_node image injective, later]
      cases mapping.node storage node ⟨start + k⟩ with
      | error fault => rfl
      | ok copy =>
          cases mapping.nodes storage (start + k + 1) rest with
          | error fault => rfl
          | ok copies => rfl

omit injective in
theorem renumbered_numbering (nodes : List Node) :
    NodeMapping.numberedFrom other (nodes.map (Node.renumbered image)) =
      (NodeMapping.numberedFrom start nodes).renumbered image := by
  rw [NodeMapping.numberedFrom, NodeMapping.numberedFrom, NodeMapping.renumbered,
    List.zipIdx_map, List.map_map, List.map_map]
  refine List.map_congr_left fun entry _ => ?_
  exact Prod.ext rfl (numbers entry.2).symm

end Copying

end Renumbering

end TensorGraph
