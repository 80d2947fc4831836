import TensorGraph.Proofs.Duplication
import TensorGraph.Proofs.Renumbering

set_option autoImplicit false

namespace TensorGraph

-- The number of the copy of a node; a node without a copy keeps its own.
def NodeMapping.image (mapping : NodeMapping) (id : NodeId) : NodeId := (mapping.lookup id).getD id

theorem sent_renumbered (mapping : NodeMapping) (edge image : Edge) (sends : mapping.Sends edge image) :
    edge.renumbered mapping.image = image := by
  obtain ⟨producer, slot⟩ := edge
  obtain ⟨target, targetSlot⟩ := image
  obtain ⟨rfl, follows⟩ := sends
  cases producer with
  | var id =>
      obtain rfl : target = .var id := follows
      rfl
  | node id =>
      obtain ⟨copy, found, rfl⟩ := follows
      simp [Edge.renumbered, Producer.renumbered, NodeMapping.image, found]

theorem sent_edges_renumbered (mapping : NodeMapping) (edges images : List Edge)
    (sends : List.Forall₂ mapping.Sends edges images) :
    edges.map (Edge.renumbered mapping.image) = images := by
  induction sends with
  | nil => rfl
  | cons head _ ih => rw [List.map_cons, sent_renumbered mapping _ _ head, ih]

theorem twin_renumbered (mapping : NodeMapping) (original copy : Node)
    (twin : mapping.Twin original copy)
    (numbered : copy.id = mapping.image original.id) : original.renumbered mapping.image = copy := by
  obtain ⟨id, name, operator, inputs, results, predicate⟩ := copy
  obtain ⟨rfl, rfl, rfl, reads, guard⟩ := twin
  have sameInputs := sent_edges_renumbered mapping _ _ reads
  have samePredicate : original.predicate.map (Edge.renumbered mapping.image) = predicate := by
    generalize original.predicate = guarded at guard
    cases guard with
    | none => rfl
    | some sends => exact congrArg some (sent_renumbered mapping _ _ sends)
  rw [Node.renumbered, sameInputs, samePredicate, ← numbered]

section Step

variable (network next : Network) (cloned copy : Function) (mapping : NodeMapping)
  (step : CloneStep network next cloned copy mapping)

include step

theorem image_of_entry (id copied : NodeId) (entry : (id, copied) ∈ mapping) :
    mapping.image id = copied := by
  rw [NodeMapping.image, (lookup_iff_entry mapping step.sourcesApart id copied).mpr entry]
  rfl

theorem copies_renumbered : copy.nodes = cloned.nodes.map (Node.renumbered mapping.image) := by
  have pairs := twins_paired _ mapping _ _ step.twins step.sources step.images
  generalize cloned.nodes = originals, copy.nodes = copies at pairs
  induction pairs with
  | nil => rfl
  | cons pair _ ih =>
      have numbered := image_of_entry network next cloned copy mapping step _ _ pair.2
      rw [List.map_cons, twin_renumbered mapping _ _ pair.1 numbered.symm, ih]

theorem node_mapped (node : Node) (inside : node ∈ cloned.nodes) :
    (node.id, mapping.image node.id) ∈ mapping := by
  have listed : node.id ∈ mapping.map Prod.fst := by
    rw [step.sources]
    exact List.mem_map_of_mem inside
  obtain ⟨⟨_, copied⟩, entry, rfl⟩ := List.mem_map.mp listed
  rw [image_of_entry network next cloned copy mapping step node.id copied entry]
  exact entry

theorem clone_mirrors (kept : network.Represented) (nextKept : next.Represented)
    (member : cloned ∈ network.functions) (made : copy ∈ next.functions)
    (held : ∀ node ∈ cloned.nodes, ∀ edge ∈ node.reads, (network.scopeOf cloned).Holds edge.producer) :
    (next.scopeOf cloned).Mirrors mapping.image (next.scopeOf copy) := by
  have entries := node_mapped network next cloned copy mapping step
  refine ⟨rfl, rfl, copies_renumbered network next cloned copy mapping step, ?_,
    kept.functions.indexed cloned member, nextKept.functions.indexed copy made, ?_⟩
  · intro a inA b inB same
    have first := entries a inA
    rw [show mapping.image a.id = mapping.image b.id from same] at first
    exact same_source network next cloned copy mapping step a.id b.id _ first (entries b inB)
  · intro node inside edge reads
    have holds := held node inside edge reads
    generalize edge.producer = producer at holds
    cases producer with
    | var id => simpa [Scope.Holds, Network.scopeOf, step.storage] using holds
    | node id => exact holds

end Step

theorem verify_function_outcome (settings : Settings) (network : Network) (id : FunctionId)
    (function : Function) (found : network.function? id = some function) :
    (network.verifyFunction settings id).1 = (network.scopeOf function).verify.mapError .violation := by
  rw [Network.verifyFunction, found]
  simp only [Network.verifyOne]
  cases (network.scopeOf function).verify with
  | ok passed => rfl
  | error violation => rfl

theorem cloned_function_mirrors (network : Network) (kept : network.Represented) (source id : FunctionId)
    (name : String) (mapping : NodeMapping) (next : Network)
    (cloned : network.cloneFunction source name = (.ok (id, mapping), next)) :
    next.Represented ∧ ∃ original copy, network.function? source = some original ∧
      next.function? source = some original ∧
      next.function? id = some copy ∧ copy.name = name ∧ CloneStep network next original copy mapping ∧
      (next.scopeOf original).Mirrors mapping.image (next.scopeOf copy) := by
  have nextKept : next.Represented := by
    have changes := clone_function_changes (.cloneFunction source name) network source name rfl
    rw [cloned] at changes
    exact changes_represented _ _ _ changes kept
  obtain ⟨original, copy, found, made, named, step⟩ :=
    clone_step network kept source name id mapping next cloned
  obtain ⟨_, same, again, held⟩ :=
    (clone_succeeds_iff network kept source name).mp ⟨(id, mapping), by rw [cloned]⟩
  obtain rfl : original = same := Option.some.inj (found.symm.trans again)
  have stillFound : next.function? source = some original := by
    rw [Network.function?, step.functions]
    exact (appended_entry_iff network.functions copy original source.index).mpr (.inl found)
  refine ⟨nextKept, original, copy, found, stillFound, made, named, step, ?_⟩
  exact clone_mirrors network next original copy mapping step kept nextKept (List.mem_of_getElem? found)
    (List.mem_of_getElem? made) held

-- Both verifications come to one outcome, told with the numbers of the source and with those of the
-- copy.
theorem clones_verify_like_their_source (settings : Settings) (actions : List Action)
    (source id : FunctionId) (name : String) (mapping : NodeMapping) (next : Network)
    (cloned : (Network.run settings .empty actions).cloneFunction source name =
      (.ok (id, mapping), next)) :
    ∃ outcome : Except Violation Unit,
      (next.verifyFunction settings source).1 = outcome.mapError .violation ∧
      (next.verifyFunction settings id).1 =
        (outcome.mapError (Violation.renumbered mapping.image)).mapError .violation := by
  have kept := run_represented settings .empty actions empty_represented
  obtain ⟨nextKept, original, copy, _, stillFound, made, _, _, mirrors⟩ :=
    cloned_function_mirrors _ kept source id name mapping next cloned
  refine ⟨(next.scopeOf original).verify,
    verify_function_outcome settings next source original stillFound, ?_⟩
  rw [verify_function_outcome settings next id copy made]
  congr 1
  have known := nextKept.functions.typed original (List.mem_of_getElem? stillFound)
  exact verify_mirrored mapping.image _ _ mirrors next.nextVariable nextKept.storage known

-- A node that reads a slot beyond the results of a later node: the source is told of node 1, the copy of
-- node 3.
theorem clone_of_a_wrong_slot_fails_alike :
    let network := Network.run {} .empty [.createFunction "f",
      .createVariable ⟨.plain .float [2], "x", .external, .none⟩,
      .edit ⟨0⟩ (.addNode "a" (.activation .relu) [.ofVariable ⟨0⟩] [⟨0⟩]),
      .edit ⟨0⟩ (.addNode "b" (.activation .relu) [.ofNode ⟨0⟩] [⟨0⟩]),
      .edit ⟨0⟩ (.setInput ⟨0⟩ 0 ⟨.node ⟨1⟩, 4⟩)]
    let next := (network.cloneFunction ⟨0⟩ "g").2
    let found := Violation.resultSlot "a__1" 0 (.node ⟨1⟩) 4 1
    network.cloneFunction ⟨0⟩ "g" = (.ok (⟨1⟩, [(⟨0⟩, ⟨2⟩), (⟨1⟩, ⟨3⟩)]), next) ∧
      (next.verifyFunction {} ⟨0⟩).1 = .error (.violation found) ∧
      (next.verifyFunction {} ⟨1⟩).1 = .error (.violation (.resultSlot "a__1" 0 (.node ⟨3⟩) 4 1)) := by
  intro network next found
  have cloned : network.cloneFunction ⟨0⟩ "g" = (.ok (⟨1⟩, [(⟨0⟩, ⟨2⟩), (⟨1⟩, ⟨3⟩)]), next) := by
    refine Prod.ext ?_ rfl
    decide
  have failed : (next.verifyFunction {} ⟨0⟩).1 = .error (.violation found) := by decide
  obtain ⟨outcome, ofSource, ofCopy⟩ := clones_verify_like_their_source {} _ ⟨0⟩ ⟨1⟩ "g" _ next cloned
  refine ⟨cloned, failed, ?_⟩
  rw [ofCopy]
  rw [failed] at ofSource
  cases outcome with
  | ok passed => cases ofSource
  | error violation =>
      obtain rfl : found = violation := GraphFault.violation.inj (Except.error.inj ofSource)
      rfl

end TensorGraph
