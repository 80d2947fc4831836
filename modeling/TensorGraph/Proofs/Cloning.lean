import Mathlib.Data.List.Forall2
import Mathlib.Data.List.Nodup
import TensorGraph.Proofs.Representation

set_option autoImplicit false

namespace TensorGraph

def Scope.Holds (scope : Scope) : Producer → Prop
  | .var id => ∃ v ∈ scope.storage, v.id = id
  | .node id => ∃ node ∈ scope.function.nodes, node.id = id

def Network.Clonable (network : Network) (source : FunctionId) (name : String) : Prop :=
  (∀ function ∈ network.functions, function.name ≠ name) ∧
    ∃ cloned, network.function? source = some cloned ∧
    ∀ node ∈ cloned.nodes, ∀ edge ∈ node.reads, (network.scopeOf cloned).Holds edge.producer

-- The mapping pairs the nodes of both functions in order. Everything that existed before is as it was.
structure CloneStep (network next : Network) (cloned copy : Function)
    (mapping : NodeMapping) : Prop where
  functions : next.functions = network.functions ++ [copy]
  storage : next.storage = network.storage
  types : next.types = network.types
  variableCount : next.nextVariable = network.nextVariable
  suffix : next.nextSuffix = network.nextSuffix
  sources : mapping.map Prod.fst = cloned.nodes.map Node.id
  images : mapping.map Prod.snd = copy.nodes.map Node.id
  sourcesApart : (mapping.map Prod.fst).Nodup
  imagesApart : (mapping.map Prod.snd).Nodup
  unissued : ∀ node ∈ copy.nodes, network.nextNode ≤ node.id.index ∧ node.id.index < next.nextNode
  fresh : ∀ function ∈ network.functions, ∀ node ∈ function.nodes, node.id ∉ copy.nodes.map Node.id
  twins : List.Forall₂ mapping.Twin cloned.nodes copy.nodes

theorem mapped_iff (start : Nat) (function : Function) (indexed : function.Indexed) (id : NodeId) :
    (∃ copy, (NodeMapping.numberedFrom start function.nodes).lookup id = some copy) ↔
      ∃ node ∈ function.nodes, node.id = id := by
  have keys := numbered_keys start function.nodes
  have apart : ((NodeMapping.numberedFrom start function.nodes).map Prod.fst).Nodup := by
    rw [keys]
    exact node_ids_apart function indexed
  rw [← List.mem_map (f := Node.id), ← keys, List.mem_map]
  simp only [lookup_iff_entry _ apart]
  exact ⟨fun ⟨copy, entry⟩ => ⟨(id, copy), entry, rfl⟩,
    fun ⟨entry, member, same⟩ => ⟨entry.2, same ▸ member⟩⟩

theorem covers_iff (network : Network) (represented : network.Represented) (start : Nat)
    (function : Function) (member : function ∈ network.functions) (producer : Producer) :
    (NodeMapping.numberedFrom start function.nodes).Covers network.storage producer ↔
      (network.scopeOf function).Holds producer := by
  cases producer with
  | var id => simp [NodeMapping.Covers, Scope.Holds, Network.scopeOf,
      variable_iff _ _ _ represented.storage]
  | node id => exact mapped_iff start function (represented.functions.indexed function member) id

theorem clone_succeeds_iff (network : Network) (represented : network.Represented) (source : FunctionId)
    (name : String) :
    (∃ answer, (network.cloneFunction source name).1 = .ok answer) ↔ network.Clonable source name := by
  rw [Network.Clonable, ← function_name_free network name, Network.cloneFunction]
  cases free : network.hasFunction name with
  | true => simp
  | false =>
      cases found : network.function? source with
      | none => simp
      | some cloned =>
          have copies := copied_nodes_exist_iff (NodeMapping.numberedFrom network.nextNode cloned.nodes)
            network.storage network.nextNode cloned.nodes
          simp only [covers_iff network represented _ cloned (List.mem_of_getElem? found)] at copies
          simp only [Option.some.injEq, exists_eq_left', ← copies]
          cases (NodeMapping.numberedFrom network.nextNode cloned.nodes).nodes network.storage
            network.nextNode cloned.nodes with
          | error fault => simp
          | ok made => simp

theorem copies_step (network next : Network) (represented : network.Represented) (cloned copy : Function)
    (copies : List Node) (member : cloned ∈ network.functions)
    (copied : (NodeMapping.numberedFrom network.nextNode cloned.nodes).nodes network.storage
      network.nextNode cloned.nodes = .ok copies) (sameNodes : copy.nodes = copies)
    (made : next = { network with
      nextNode := network.nextNode + cloned.size, functions := network.functions ++ [copy], journal :=
        next.journal }) :
    CloneStep network next cloned copy (NodeMapping.numberedFrom network.nextNode cloned.nodes) := by
  have keys := numbered_keys network.nextNode cloned.nodes
  have numbers := copied_nodes_numbered _ _ _ _ _ copied
  have images := (numbered_images network.nextNode cloned.nodes).trans numbers.symm
  have bounds := copy_number_bounds network.nextNode cloned.nodes copies numbers
  rw [made]
  refine ⟨rfl, rfl, rfl, rfl, rfl, keys, ?_, ?_, ?_, ?_, ?_, ?_⟩
  · rw [sameNodes]
    exact images
  · rw [keys]
    exact node_ids_apart cloned (represented.functions.indexed cloned member)
  · rw [images, numbers]
    exact List.Nodup.map (fun a b same => NodeId.mk.inj same) List.nodup_range'
  · rw [sameNodes]
    exact bounds
  · rw [sameNodes]
    intro function older node inside listed
    obtain ⟨copy, made, same⟩ := List.mem_map.mp listed
    have below := represented.functions.below function older node inside
    rw [← same] at below
    exact Nat.not_lt_of_le (bounds copy made).1 below
  · rw [sameNodes]
    exact copied_nodes_twins _ _ _ _ _ copied

theorem clone_step (network : Network) (represented : network.Represented) (source : FunctionId)
    (name : String) (id : FunctionId) (mapping : NodeMapping) (next : Network)
    (done : network.cloneFunction source name = (.ok (id, mapping), next)) :
    ∃ cloned copy, network.function? source = some cloned ∧ next.function? id = some copy ∧
      copy.name = name ∧
      CloneStep network next cloned copy mapping := by
  rcases clone_cases network source name with
    ⟨fault, failed⟩ | ⟨fault, count, failed⟩ | ⟨cloned, copies, events, _, found, copied, answered⟩
  · rw [failed] at done
    cases done
  · rw [failed] at done
    cases done
  · rw [answered] at done
    cases done
    obtain ⟨_, sameName, sameNodes⟩ :=
      push_all_parts copies { id := ⟨network.functions.length⟩, name := name }
    refine ⟨cloned, copies.foldl Function.push { id := ⟨network.functions.length⟩, name := name }, found,
      ?_, sameName, ?_⟩
    · simp [Network.function?]
    · exact copies_step network _ represented cloned _ copies
        (List.mem_of_getElem? found) copied sameNodes rfl

theorem twins_paired (relates : Node → Node → Prop) (mapping : NodeMapping)
    (originals copies : List Node) (twins : List.Forall₂ relates originals copies)
    (sources : mapping.map Prod.fst = originals.map Node.id)
    (images : mapping.map Prod.snd = copies.map Node.id) :
    List.Forall₂ (fun original copy => relates original copy ∧
      (original.id, copy.id) ∈ mapping) originals copies := by
  induction twins generalizing mapping with
  | nil => exact .nil
  | cons twin _ ih =>
      cases mapping with
      | nil => cases sources
      | cons pair rest =>
          obtain ⟨source, laterSources⟩ := List.cons.inj sources
          obtain ⟨image, laterImages⟩ := List.cons.inj images
          refine .cons ⟨twin, ?_⟩ ((ih rest laterSources laterImages).imp
            fun _ _ later => ⟨later.1, List.mem_cons_of_mem _ later.2⟩)
          rw [← source, ← image]
          exact List.mem_cons_self

section Step

variable (network next : Network) (cloned copy : Function) (mapping : NodeMapping)
  (step : CloneStep network next cloned copy mapping)

include step

theorem copy_source (node : Node) (inside : node ∈ copy.nodes) :
    ∃ original ∈ cloned.nodes, mapping.Twin original node ∧ (original.id, node.id) ∈ mapping :=
  related_source _ _ _ (twins_paired _ mapping _ _ step.twins step.sources step.images) node inside

theorem same_source (a b id : NodeId) (first : (a, id) ∈ mapping) (second : (b, id) ∈ mapping) : a = b :=
  congrArg Prod.fst (List.inj_on_of_nodup_map step.imagesApart first second rfl)

theorem image_entry (id image : NodeId) (found : mapping.lookup id = some image) :
    (id, image) ∈ mapping :=
  (lookup_iff_entry mapping step.sourcesApart id image).mp found

theorem image_node (id image : NodeId) (entry : (id, image) ∈ mapping) :
    ∃ node ∈ copy.nodes, node.id = image := by
  have listed : image ∈ mapping.map Prod.snd := List.mem_map.mpr ⟨_, entry, rfl⟩
  rw [step.images] at listed
  exact List.mem_map.mp listed

end Step

theorem cloning_is_exact (settings : Settings) (actions : List Action) (source : FunctionId)
    (name : String) :
    let network := Network.run settings .empty actions
    let outcome := network.cloneFunction source name
    ((∃ answer, outcome.1 = .ok answer) ↔ network.Clonable source name) ∧
      ∀ id mapping, outcome.1 = .ok (id, mapping) →
        ∃ cloned copy, network.function? source = some cloned ∧
        outcome.2.function? id = some copy ∧ copy.name = name ∧
          CloneStep network outcome.2 cloned copy mapping := by
  intro network outcome
  have represented : network.Represented := run_represented settings .empty actions empty_represented
  refine ⟨clone_succeeds_iff network represented source name, ?_⟩
  intro id mapping answered
  exact clone_step network represented source name id mapping outcome.2 (Prod.ext answered rfl)

-- The nodes of the cloned function read each other in a circle, one of them also by its predicate.
theorem cloning_a_rewired_function :
    let network := Network.run {} .empty [.createFunction "f",
      .createVariable ⟨.plain .float [2], "x", .external, .none⟩,
      .edit ⟨0⟩ (.addNode "a" (.activation .relu) [.ofVariable ⟨0⟩] [⟨0⟩]),
      .edit ⟨0⟩ (.addNode "b" (.activation .relu) [.ofNode ⟨0⟩] [⟨0⟩]),
      .edit ⟨0⟩ (.setInput ⟨0⟩ 0 (.ofNode ⟨1⟩)), .edit ⟨0⟩ (.setPredicate ⟨1⟩ (some (.ofNode ⟨1⟩)))]
    let outcome := network.cloneFunction ⟨0⟩ "g"
    outcome.1 = .ok (⟨1⟩, [(⟨0⟩, ⟨2⟩), (⟨1⟩, ⟨3⟩)]) ∧
      ∃ cloned copy, network.function? ⟨0⟩ = some cloned ∧ outcome.2.function? ⟨1⟩ = some copy ∧
        copy.name = "g" ∧
        CloneStep network outcome.2 cloned copy [(⟨0⟩, ⟨2⟩), (⟨1⟩, ⟨3⟩)] := by
  intro network outcome
  have answered : outcome.1 = .ok (⟨1⟩, [(⟨0⟩, ⟨2⟩), (⟨1⟩, ⟨3⟩)]) := by decide
  exact ⟨answered, (cloning_is_exact {} _ ⟨0⟩ "g").2 _ _ answered⟩

end TensorGraph
