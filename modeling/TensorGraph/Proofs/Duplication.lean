import TensorGraph.Proofs.Building

set_option autoImplicit false

namespace TensorGraph

section Step

variable (network next : Network) (cloned copy : Function) (mapping : NodeMapping)
  (step : CloneStep network next cloned copy mapping)

include step

-- Copies are numbered in the order of their originals, so what read backwards still does.
theorem images_ascend (clonedIndexed : cloned.Indexed) (copyIndexed : copy.Indexed)
    (a b imageA imageB : NodeId) (first : (a, imageA) ∈ mapping) (second : (b, imageB) ∈ mapping)
    (less : a.index < b.index) :
    imageA.index < imageB.index := by
  have keys : mapping.Pairwise fun p q => p.1.index < q.1.index := by
    refine (List.pairwise_map (f := Prod.fst) (R := fun a b : NodeId => a.index < b.index)).mp ?_
    rw [step.sources]
    exact List.pairwise_map.mpr clonedIndexed.ascending
  have images : mapping.Pairwise fun p q => p.2.index < q.2.index := by
    refine (List.pairwise_map (f := Prod.snd) (R := fun a b : NodeId => a.index < b.index)).mp ?_
    rw [step.images]
    exact List.pairwise_map.mpr copyIndexed.ascending
  refine List.Pairwise.forall_of_forall_of_flip (R := fun p q : NodeId × NodeId => p.1.index <
    q.1.index → p.2.index < q.2.index) ?_ ?_ ?_ first second less
  · exact fun p _ itself => absurd itself (Nat.lt_irrefl _)
  · refine images.imp ?_
    intro p q rises _
    exact rises
  · refine keys.imp ?_
    intro p q rises falls
    exact absurd falls (Nat.lt_asymm rises)

variable (kept : network.Represented) (nextKept : next.Represented) (member : cloned ∈ network.functions)
  (made : copy ∈ next.functions)
  (held : ∀ node ∈ cloned.nodes, ∀ edge ∈ node.reads, (network.scopeOf cloned).Holds edge.producer)

theorem sent_recalls (edge image : Edge) (type : TensorType) (sends : mapping.Sends edge image)
    (recalls : (network.scopeOf cloned).Recalls edge type) : (next.scopeOf copy).Recalls image type := by
  obtain ⟨producer, slot⟩ := edge
  obtain ⟨target, targetSlot⟩ := image
  obtain ⟨rfl, follows⟩ := sends
  cases producer with
  | var id =>
      obtain rfl : target = .var id := follows
      simpa [Scope.Recalls, Network.scopeOf, step.storage, step.types] using recalls
  | node id =>
      obtain ⟨image, found, rfl⟩ := follows
      rintro node inside rfl
      obtain ⟨original, there, twin, entry⟩ :=
        copy_source network next cloned copy mapping step node inside
      have same := same_source network next cloned copy mapping step original.id id node.id entry
        (image_entry network next cloned copy mapping step id node.id found)
      obtain ⟨handle, result, known⟩ := recalls original there same
      refine ⟨handle, twin.results ▸ result, ?_⟩
      change next.types.get? handle = some type
      rw [step.types]
      exact known

theorem sent_holds (edge image : Edge) (sends : mapping.Sends edge image)
    (holds : (network.scopeOf cloned).Holds edge.producer) :
      (next.scopeOf copy).Holds image.producer := by
  obtain ⟨producer, slot⟩ := edge
  obtain ⟨target, targetSlot⟩ := image
  obtain ⟨_, follows⟩ := sends
  cases producer with
  | var id =>
      obtain rfl : target = .var id := follows
      simpa [Scope.Holds, Network.scopeOf, step.storage] using holds
  | node id =>
      obtain ⟨image, found, rfl⟩ := follows
      exact image_node network next cloned copy mapping step id image
        (image_entry network next cloned copy mapping step id image found)

theorem sent_after (clonedIndexed : cloned.Indexed) (copyIndexed : copy.Indexed) (original node : Node)
    (entry : (original.id, node.id) ∈ mapping) (edge image : Edge) (sends : mapping.Sends edge image)
    (earlier : original.After network.nextVariable edge.producer) :
      node.After next.nextVariable image.producer := by
  obtain ⟨producer, slot⟩ := edge
  obtain ⟨target, targetSlot⟩ := image
  obtain ⟨_, follows⟩ := sends
  cases producer with
  | var id =>
      obtain rfl : target = .var id := follows
      simpa [Node.After, step.variableCount] using earlier
  | node id =>
      obtain ⟨image, found, rfl⟩ := follows
      exact images_ascend network next cloned copy mapping step clonedIndexed copyIndexed id
        original.id image node.id
        (image_entry network next cloned copy mapping step id image found) entry earlier

theorem copy_certified (clonedIndexed : cloned.Indexed) (copyIndexed : copy.Indexed)
    (original node : Node) (twin : mapping.Twin original node)
    (entry : (original.id, node.id) ∈ mapping)
    (certified : Certified network cloned original) : Certified next copy node := by
  refine ⟨?_, ?_, ?_⟩
  · have predicate := twin.predicate
    rw [certified.unguarded] at predicate
    cases guard : node.predicate with
    | none => rfl
    | some image =>
        rw [guard] at predicate
        cases predicate
  · intro image reads
    obtain ⟨edge, there, sends⟩ := related_source _ _ _ twin.inputs image reads
    exact sent_after network next cloned copy mapping step clonedIndexed copyIndexed original node entry
      edge image sends (certified.backward edge there)
  · obtain ⟨operands, types, recalled, known, checked⟩ := certified.typed
    refine ⟨operands, types, ?_, ?_, ?_⟩
    · exact related_through _ _ _ _ _ _ twin.inputs recalled fun edge image type =>
        sent_recalls network next cloned copy mapping step edge image type
    · rw [twin.results, step.types]
      exact known
    · rw [twin.operator]
      exact checked

omit nextKept member made held

include kept

-- The copies stand in the new function only.
theorem copied_node_place (function : Function) (listed : function ∈ next.functions) (node : Node)
    (inside : node ∈ function.nodes) (source : NodeId) (entry : (source, node.id) ∈ mapping) :
      function = copy := by
  rw [step.functions] at listed
  rcases List.mem_append.mp listed with older | last
  · obtain ⟨twin, there, same⟩ := image_node network next cloned copy mapping step source node.id entry
    have below := kept.functions.below function older node inside
    rw [← same] at below
    exact absurd below (Nat.not_lt_of_le (step.unissued twin there).1)
  · exact List.mem_singleton.mp last

include nextKept member made held

theorem copies_join (pristine stranded : NodeId → Prop) (backed : Backed pristine stranded network) :
    Joins network.nextNode (fun id => ∃ source, (source, id) ∈ mapping ∧ pristine source) next := by
  have clonedIndexed := kept.functions.indexed cloned member
  have copyIndexed := nextKept.functions.indexed copy made
  have origin : ∀ node ∈ copy.nodes, (∃ source, (source, node.id) ∈ mapping ∧ pristine source) →
      ∃ original ∈ cloned.nodes, mapping.Twin original node ∧ (original.id, node.id) ∈ mapping ∧
        pristine original.id := by
    rintro node inside ⟨source, entry, listed⟩
    obtain ⟨original, there, twin, again⟩ :=
      copy_source network next cloned copy mapping step node inside
    have same := same_source network next cloned copy mapping step source original.id node.id entry again
    exact ⟨original, there, twin, again, same ▸ listed⟩
  have above : ∀ source id, (source, id) ∈ mapping → network.nextNode ≤ id.index ∧
      id.index < next.nextNode := by
    intro source id entry
    obtain ⟨node, inside, rfl⟩ := image_node network next cloned copy mapping step source id entry
    exact step.unissued node inside
  have place : ∀ function ∈ next.functions, ∀ node ∈ function.nodes,
      (∃ source, (source, node.id) ∈ mapping ∧ pristine source) → function = copy := by
    rintro function listed node inside ⟨source, entry, _⟩
    exact copied_node_place network next cloned copy mapping step kept function listed node
      inside source entry
  refine ⟨?_, ?_, ?_, ?_⟩
  · rintro id ⟨source, entry, _⟩
    exact (above source id entry).1
  · rintro id ⟨source, entry, _⟩
    exact (above source id entry).2
  · intro function listed node inside fresh
    obtain rfl := place function listed node inside fresh
    obtain ⟨original, there, twin, entry, listed⟩ := origin node inside fresh
    exact copy_certified network next cloned function mapping step clonedIndexed copyIndexed original
      node twin entry (backed.certified cloned member original there listed)
  · intro function listed node inside fresh image reads
    obtain rfl := place function listed node inside fresh
    obtain ⟨original, there, twin, entry, _⟩ := origin node inside fresh
    obtain ⟨edge, read, sends⟩ := related_source _ _ _ twin.inputs image reads
    exact sent_holds network next cloned function mapping step edge image sends
      (held original there edge (List.mem_append_left _ read))

end Step

end TensorGraph
