import Mathlib.Data.List.Forall2
import TensorGraph.Network.Clone
import TensorGraph.Proofs.Positions
import TensorGraph.Proofs.Success

set_option autoImplicit false

namespace TensorGraph

namespace NodeMapping

-- The edge of a copy: nodes are replaced by their copies, variables and slots stay.
def Sends (mapping : NodeMapping) (edge image : Edge) : Prop :=
  image.slot = edge.slot ∧
    match edge.producer with
    | .var id => image.producer = .var id
    | .node id => ∃ copy, mapping.lookup id = some copy ∧ image.producer = .node copy

structure Twin (mapping : NodeMapping) (original copy : Node) : Prop where
  name : copy.name = original.name
  operator : copy.operator = original.operator
  results : copy.results = original.results
  inputs : List.Forall₂ mapping.Sends original.inputs copy.inputs
  predicate : Option.Rel mapping.Sends original.predicate copy.predicate

def Covers (mapping : NodeMapping) (storage : Variables) : Producer → Prop
  | .var id => ∃ v, storage.get? id = some v
  | .node id => ∃ copy, mapping.lookup id = some copy

end NodeMapping

theorem copied_edge_iff (mapping : NodeMapping) (storage : Variables) (node : Node) (i : Nat)
    (edge image : Edge) :
    mapping.edge storage node i edge = .ok image ↔ mapping.Covers storage edge.producer ∧
      mapping.Sends edge image := by
  obtain ⟨producer, slot⟩ := edge
  obtain ⟨target, targetSlot⟩ := image
  cases producer with
  | var id =>
      simp only [NodeMapping.edge, NodeMapping.Covers, NodeMapping.Sends]
      cases storage.get? id with
      | none => simp
      | some v => simp [eq_comm, and_comm]
  | node id =>
      simp only [NodeMapping.edge, NodeMapping.Covers, NodeMapping.Sends]
      cases mapping.lookup id with
      | none => simp
      | some copy => simp [eq_comm, and_comm]

theorem copied_edge_exists_iff (mapping : NodeMapping) (storage : Variables) (node : Node) (i : Nat)
    (edge : Edge) :
    (∃ image, mapping.edge storage node i edge = .ok image) ↔ mapping.Covers storage edge.producer := by
  constructor
  · rintro ⟨image, copied⟩
    exact ((copied_edge_iff mapping storage node i edge image).mp copied).1
  · intro covered
    obtain ⟨producer, slot⟩ := edge
    cases producer with
    | var id => exact ⟨⟨.var id, slot⟩, (copied_edge_iff _ _ _ _ _ _).mpr ⟨covered, rfl, rfl⟩⟩
    | node id =>
        obtain ⟨copy, found⟩ := covered
        exact ⟨⟨.node copy, slot⟩, (copied_edge_iff _ _ _ _ _ _).mpr ⟨⟨copy, found⟩, rfl,
          copy, found, rfl⟩⟩

theorem copied_edges_sent (mapping : NodeMapping) (storage : Variables) (node : Node) (i : Nat)
    (edges images : List Edge) (copied : mapping.edges storage node i edges = .ok images) :
      List.Forall₂ mapping.Sends edges images := by
  induction edges generalizing i images with
  | nil =>
      have empty : [] = images := Except.ok.inj copied
      subst images
      exact .nil
  | cons edge rest ih =>
      obtain ⟨image, head, tail⟩ := (bind_ok_iff _ _ _).mp copied
      obtain ⟨others, later, result⟩ := (bind_ok_iff _ _ _).mp tail
      have whole : image :: others = images := Except.ok.inj result
      subst images
      exact .cons ((copied_edge_iff mapping storage node i edge image).mp head).2
        (ih (i + 1) others later)

theorem copied_edges_exist_iff (mapping : NodeMapping) (storage : Variables) (node : Node) (i : Nat)
    (edges : List Edge) :
    (∃ images, mapping.edges storage node i edges = .ok images) ↔
      ∀ edge ∈ edges, mapping.Covers storage edge.producer := by
  induction edges generalizing i with
  | nil => simp [NodeMapping.edges]
  | cons edge rest ih =>
      rw [List.forall_mem_cons, ← copied_edge_exists_iff mapping storage node i, ← ih (i + 1)]
      simp only [NodeMapping.edges, bind_ok_iff, Except.ok.injEq]
      constructor
      · rintro ⟨_, image, head, others, later, _⟩
        exact ⟨⟨image, head⟩, others, later⟩
      · rintro ⟨⟨image, head⟩, others, later⟩
        exact ⟨image :: others, image, head, others, later, rfl⟩

theorem copied_predicate_sent (mapping : NodeMapping) (storage : Variables) (node : Node)
    (image : Option Edge) (copied : mapping.predicate storage node = .ok image) :
      Option.Rel mapping.Sends node.predicate image := by
  unfold NodeMapping.predicate at copied
  cases present : node.predicate with
  | none =>
      have empty : none = image := by simpa [present] using copied
      subst image
      exact .none
  | some edge =>
      simp only [present, map_ok_iff] at copied
      obtain ⟨target, sent, rfl⟩ := copied
      exact .some ((copied_edge_iff _ _ _ _ _ _).mp sent).2

theorem copied_predicate_exists_iff (mapping : NodeMapping) (storage : Variables) (node : Node) :
    (∃ image, mapping.predicate storage node = .ok image) ↔
      ∀ edge ∈ node.predicate, mapping.Covers storage edge.producer := by
  unfold NodeMapping.predicate
  cases present : node.predicate with
  | none => simp
  | some edge =>
      simp only [map_ok_iff, Option.mem_some_iff, forall_eq']
      rw [← copied_edge_exists_iff mapping storage node node.inputs.length edge]
      constructor
      · rintro ⟨_, target, sent, _⟩
        exact ⟨target, sent⟩
      · rintro ⟨target, sent⟩
        exact ⟨some target, target, sent, rfl⟩

theorem copied_node_twin (mapping : NodeMapping) (storage : Variables) (original copy : Node)
    (id : NodeId) (copied : mapping.node storage original id = .ok copy) :
      copy.id = id ∧ mapping.Twin original copy := by
  obtain ⟨inputs, sent, rest⟩ := (bind_ok_iff _ _ _).mp copied
  obtain ⟨predicate, guarded, result⟩ := (bind_ok_iff _ _ _).mp rest
  have same := (Except.ok.inj result).symm
  subst copy
  exact ⟨rfl, rfl, rfl, rfl, copied_edges_sent mapping storage original 0 _ _ sent,
    copied_predicate_sent mapping storage original predicate guarded⟩

theorem copied_node_exists_iff (mapping : NodeMapping) (storage : Variables) (original : Node)
    (id : NodeId) :
    (∃ copy, mapping.node storage original id = .ok copy) ↔
      ∀ edge ∈ original.reads, mapping.Covers storage edge.producer := by
  have parts : (∀ edge ∈ original.reads, mapping.Covers storage edge.producer) ↔
      (∀ edge ∈ original.inputs, mapping.Covers storage edge.producer) ∧
        ∀ edge ∈ original.predicate, mapping.Covers storage edge.producer := by
    simp [Node.reads, or_imp, forall_and]
  rw [parts, ← copied_edges_exist_iff mapping storage original 0,
    ← copied_predicate_exists_iff mapping storage original]
  simp only [NodeMapping.node, bind_ok_iff, Except.ok.injEq]
  constructor
  · rintro ⟨_, inputs, sent, predicate, guarded, _⟩
    exact ⟨⟨inputs, sent⟩, predicate, guarded⟩
  · rintro ⟨⟨inputs, sent⟩, predicate, guarded⟩
    exact ⟨_, inputs, sent, predicate, guarded, rfl⟩

theorem copied_nodes_twins (mapping : NodeMapping) (storage : Variables) (start : Nat)
    (originals copies : List Node) (copied : mapping.nodes storage start originals = .ok copies) :
      List.Forall₂ mapping.Twin originals copies := by
  induction originals generalizing start copies with
  | nil =>
      have empty : [] = copies := Except.ok.inj copied
      subst copies
      exact .nil
  | cons original rest ih =>
      obtain ⟨copy, head, tail⟩ := (bind_ok_iff _ _ _).mp copied
      obtain ⟨others, later, result⟩ := (bind_ok_iff _ _ _).mp tail
      have whole : copy :: others = copies := Except.ok.inj result
      subst copies
      exact .cons (copied_node_twin mapping storage original copy ⟨start⟩ head).2
        (ih (start + 1) others later)

theorem copied_nodes_numbered (mapping : NodeMapping) (storage : Variables) (start : Nat)
    (originals copies : List Node) (copied : mapping.nodes storage start originals = .ok copies) :
    copies.map Node.id = (List.range' start originals.length).map NodeId.mk := by
  induction originals generalizing start copies with
  | nil =>
      have empty : [] = copies := Except.ok.inj copied
      subst copies
      rfl
  | cons original rest ih =>
      obtain ⟨copy, head, tail⟩ := (bind_ok_iff _ _ _).mp copied
      obtain ⟨others, later, result⟩ := (bind_ok_iff _ _ _).mp tail
      have whole : copy :: others = copies := Except.ok.inj result
      subst copies
      rw [List.map_cons, List.length_cons, List.range'_succ, List.map_cons, ih (start + 1) others later,
        (copied_node_twin mapping storage original copy ⟨start⟩ head).1]

theorem copied_nodes_exist_iff (mapping : NodeMapping) (storage : Variables) (start : Nat)
    (originals : List Node) :
    (∃ copies, mapping.nodes storage start originals = .ok copies) ↔
      ∀ node ∈ originals, ∀ edge ∈ node.reads, mapping.Covers storage edge.producer := by
  induction originals generalizing start with
  | nil => simp [NodeMapping.nodes]
  | cons original rest ih =>
      rw [List.forall_mem_cons, ← copied_node_exists_iff mapping storage original ⟨start⟩,
        ← ih (start + 1)]
      simp only [NodeMapping.nodes, bind_ok_iff, Except.ok.injEq]
      constructor
      · rintro ⟨_, copy, head, others, later, _⟩
        exact ⟨⟨copy, head⟩, others, later⟩
      · rintro ⟨⟨copy, head⟩, others, later⟩
        exact ⟨copy :: others, copy, head, others, later, rfl⟩

theorem related_at {α β : Type} (relates : α → β → Prop) (originals : List α) (copies : List β)
    (related : List.Forall₂ relates originals copies) (i : Nat) (copy : β)
    (access : copies[i]? = some copy) :
    ∃ original, originals[i]? = some original ∧ relates original copy := by
  induction related generalizing i with
  | nil => cases access
  | cons twin _ ih =>
      cases i with
      | zero => exact ⟨_, rfl, Option.some.inj access ▸ twin⟩
      | succ i => exact ih i access

theorem related_source {α β : Type} (relates : α → β → Prop) (originals : List α) (copies : List β)
    (related : List.Forall₂ relates originals copies) (copy : β) (member : copy ∈ copies) :
    ∃ original ∈ originals, relates original copy := by
  obtain ⟨i, access⟩ := List.mem_iff_getElem?.mp member
  obtain ⟨original, there, twin⟩ := related_at relates originals copies related i copy access
  exact ⟨original, List.mem_of_getElem? there, twin⟩

theorem related_through {α β γ : Type} (first : α → β → Prop) (second : α → γ → Prop)
    (third : β → γ → Prop) (as : List α) (bs : List β) (cs : List γ) (left : List.Forall₂ first as bs)
    (right : List.Forall₂ second as cs)
    (joins : ∀ a b c, first a b → second a c → third b c) : List.Forall₂ third bs cs := by
  induction left generalizing cs with
  | nil =>
      cases right
      exact .nil
  | cons head _ ih =>
      cases right with
      | cons other rest => exact .cons (joins _ _ _ head other) (ih _ rest)

theorem numbered_keys (start : Nat) (nodes : List Node) :
    (NodeMapping.numberedFrom start nodes).map Prod.fst = nodes.map Node.id := by
  calc (NodeMapping.numberedFrom start nodes).map Prod.fst
      = (nodes.zipIdx.map Prod.fst).map
        Node.id := by simp only [NodeMapping.numberedFrom, List.map_map]; rfl
    _ = nodes.map Node.id := by rw [List.zipIdx_map_fst]

theorem numbered_images (start : Nat) (nodes : List Node) :
    (NodeMapping.numberedFrom start nodes).map Prod.snd =
      (List.range' start nodes.length).map NodeId.mk := by
  calc (NodeMapping.numberedFrom start nodes).map Prod.snd
      = ((nodes.zipIdx.map Prod.snd).map (start + ·)).map NodeId.mk := by
          simp only [NodeMapping.numberedFrom, List.map_map]; rfl
    _ = (List.range' start nodes.length).map NodeId.mk := by
      rw [List.zipIdx_map_snd, List.map_add_range', Nat.add_zero]

end TensorGraph
