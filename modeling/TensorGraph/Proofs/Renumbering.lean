import TensorGraph.Proofs.Cloning
import TensorGraph.Proofs.Verification

set_option autoImplicit false

namespace TensorGraph

def Producer.renumbered (image : NodeId → NodeId) : Producer → Producer
  | .var id => .var id
  | .node id => .node (image id)

def Edge.renumbered (image : NodeId → NodeId) (edge : Edge) : Edge :=
  { edge with producer := edge.producer.renumbered image }

def Node.renumbered (image : NodeId → NodeId) (node : Node) : Node :=
  { node with
    id := image node.id
    inputs := node.inputs.map (Edge.renumbered image)
    predicate := node.predicate.map (Edge.renumbered image) }

def Function.Frame.renumbered (image : NodeId → NodeId) (frame : Function.Frame) : Function.Frame :=
  ⟨image frame.node, frame.pending.map image⟩

def NodeFault.renumbered (image : NodeId → NodeId) : NodeFault → NodeFault
  | .predicateSlot slot producer available => .predicateSlot slot (producer.renumbered image) available
  | fault => fault

-- Only producers are given by numbers; everything else in a violation is the same for a copy.
def Violation.renumbered (image : NodeId → NodeId) : Violation → Violation
  | .danglingEdge node input producer => .danglingEdge node input (producer.renumbered image)
  | .danglingPredicate node producer => .danglingPredicate node (producer.renumbered image)
  | .resultSlot node input producer slot available =>
      .resultSlot node input (producer.renumbered image) slot available
  | .inconsistent node fault => .inconsistent node (fault.renumbered image)
  | found => found

-- Two functions over the same types and variables, the nodes of one being those of the other under other
-- numbers.
structure Scope.Mirrors (image : NodeId → NodeId) (source copy : Scope) : Prop where
  types : copy.types = source.types
  storage : copy.storage = source.storage
  nodes : copy.function.nodes = source.function.nodes.map (Node.renumbered image)
  apart : ∀ a ∈ source.function.nodes, ∀ b ∈ source.function.nodes, image a.id = image b.id → a.id = b.id
  sourceIndexed : source.function.Indexed
  copyIndexed : copy.function.Indexed
  closed : ∀ node ∈ source.function.nodes, ∀ edge ∈ node.reads, source.Holds edge.producer

def Producer.Among (among : NodeId → Prop) : Producer → Prop
  | .var _ => True
  | .node id => among id

-- The same, as far as a set of numbers goes that takes in all that the function mentions; look-ups of
-- those numbers agree, also where they lead nowhere.
structure Scope.Reflects (image : NodeId → NodeId) (among : NodeId → Prop)
    (source copy : Scope) : Prop where
  types : copy.types = source.types
  storage : copy.storage = source.storage
  nodes : copy.function.nodes = source.function.nodes.map (Node.renumbered image)
  apart : ∀ a b, among a → among b → image a = image b → a = b
  lookup : ∀ id, among id → copy.function.node? (image id) =
    (source.function.node? id).map (Node.renumbered image)
  listed : ∀ node ∈ source.function.nodes, among node.id
  closed : ∀ node ∈ source.function.nodes, ∀ edge ∈ node.reads, edge.producer.Among among

theorem found_listed (function : Function) (id : NodeId) (node : Node)
    (found : function.node? id = some node) :
    node ∈ function.nodes := by
  obtain ⟨position, stored⟩ := Function.lookup_of_node? found
  rw [Function.node?, stored] at found
  exact List.mem_of_getElem? found

theorem renumbered_dependencies (image : NodeId → NodeId) (node : Node) :
    (node.renumbered image).dependencies = node.dependencies.map image := by
  have reads : (node.renumbered image).reads = node.reads.map (Edge.renumbered image) := by
    cases guard : node.predicate <;> simp [Node.reads, Node.renumbered, guard]
  have target : ∀ edge : Edge, (edge.renumbered image).producer.nodeId? =
      edge.producer.nodeId?.map image := by
    intro edge
    obtain ⟨producer, slot⟩ := edge
    cases producer with
    | var id => rfl
    | node id => rfl
  rw [Node.dependencies, Node.dependencies, reads, List.filterMap_map, List.map_filterMap]
  exact congrArg (List.filterMap · node.reads) (funext target)

theorem renumbered_inputs (image : NodeId → NodeId) (node : Node) :
    (node.renumbered image).inputs.zipIdx =
    node.inputs.zipIdx.map fun input => (input.1.renumbered image, input.2) := by
  rw [Node.renumbered, List.zipIdx_map]
  rfl

theorem lookup_renumbered (image : NodeId → NodeId) (seen : List (String × Producer)) (name : String) :
    (seen.map fun entry => (entry.1, entry.2.renumbered image)).lookup name =
      (seen.lookup name).map (Producer.renumbered image) := by
  induction seen with
  | nil => rfl
  | cons entry rest ih =>
      rw [List.map_cons, List.lookup_cons, List.lookup_cons, ih]
      cases name == entry.1 with
      | true => rfl
      | false => rfl

theorem conflict_renumbered (image : NodeId → NodeId) (seen entries : List (String × Producer)) :
    nameConflict? (seen.map fun entry => (entry.1, entry.2.renumbered image))
        (entries.map fun entry => (entry.1, entry.2.renumbered image)) =
      (nameConflict? seen entries).map fun found =>
        (found.1, found.2.1.renumbered image, found.2.2.renumbered image) := by
  induction entries generalizing seen with
  | nil => rfl
  | cons entry rest ih =>
      rw [List.map_cons, nameConflict?, nameConflict?, lookup_renumbered]
      cases seen.lookup entry.1 with
      | some previous => rfl
      | none => exact ih (entry :: seen)

theorem conflict_listed (seen entries : List (String × Producer)) (name : String)
    (current previous : Producer)
    (conflict : nameConflict? seen entries = some (name, current, previous)) :
    current ∈ entries.map Prod.snd ∧ previous ∈ seen.map Prod.snd ++ entries.map Prod.snd := by
  induction entries generalizing seen with
  | nil => cases conflict
  | cons entry rest ih =>
      rw [nameConflict?] at conflict
      cases repeated : seen.lookup entry.1 with
      | some first =>
          rw [repeated] at conflict
          cases conflict
          obtain ⟨before, after, split, _⟩ := List.lookup_eq_some_iff.mp repeated
          refine ⟨List.mem_cons_self, List.mem_append_left _ ?_⟩
          rw [split]
          simp
      | none =>
          rw [repeated] at conflict
          obtain ⟨later, earlier⟩ := ih (entry :: seen) conflict
          refine ⟨List.mem_cons_of_mem _ later, ?_⟩
          simp only [List.map_cons, List.mem_append, List.mem_cons] at earlier ⊢
          tauto

theorem results_known (scope : Scope) (handles : List TypeHandle)
    (known : ∀ handle ∈ handles, ∃ type, scope.types.get? handle = some type) :
    ∃ types, scope.resultTypes handles = .ok types := by
  induction handles with
  | nil => exact ⟨[], rfl⟩
  | cons handle rest ih =>
      obtain ⟨⟨type, found⟩, later⟩ := List.forall_mem_cons.mp known
      obtain ⟨types, listed⟩ := ih later
      refine ⟨type :: types, ?_⟩
      simp only [Scope.resultTypes, found, listed]
      rfl

theorem led_edge_typed (scope : Scope) (limit : Nat)
    (kept : VariablesKept scope.storage scope.types limit)
    (indexed : scope.function.Indexed) (known : ∀ node ∈ scope.function.nodes, ∀ handle ∈ node.results,
      ∃ type, scope.types.get? handle = some type) (edge : Edge) (leads : scope.Leads edge) :
    ∃ type, scope.slotType? edge = some type := by
  simp only [← carries_iff scope limit kept indexed]
  obtain ⟨producer, slot⟩ := edge
  cases producer with
  | var id =>
      obtain ⟨_, v, stored, same⟩ := leads
      obtain ⟨type, found⟩ := kept.typed v stored
      exact ⟨type, v, stored, same, found⟩
  | node id =>
      obtain ⟨node, inside, same, below⟩ := leads
      obtain ⟨type, found⟩ := known node inside node.results[slot] (List.getElem_mem below)
      exact ⟨type, node, inside, same, node.results[slot], List.getElem?_eq_getElem below, found⟩

section Reflection

variable (image : NodeId → NodeId) (among : NodeId → Prop) (source copy : Scope)
  (reflects : source.Reflects image among copy)

include reflects

theorem reflected_descriptor (producer : Producer) (mentioned : producer.Among among) :
    copy.descriptor (producer.renumbered image) = source.descriptor producer := by
  cases producer with
  | var id => rw [Producer.renumbered, Scope.descriptor, Scope.descriptor, reflects.storage,
      reflects.types]
  | node id =>
      rw [Producer.renumbered, Scope.descriptor, Scope.descriptor, reflects.lookup id mentioned,
        reflects.types]
      cases source.function.node? id with
      | none => rfl
      | some node => rfl

theorem reflected_name (producer : Producer) (mentioned : producer.Among among) :
    copy.producerName (producer.renumbered image) = source.producerName producer := by
  cases producer with
  | var id => rw [Producer.renumbered, Scope.producerName, Scope.producerName, reflects.storage]
  | node id =>
      rw [Producer.renumbered, Scope.producerName, Scope.producerName, reflects.lookup id mentioned]
      cases source.function.node? id with
      | none => rfl
      | some node => rfl

theorem reflected_count (producer : Producer) (mentioned : producer.Among among) :
    copy.resultCount? (producer.renumbered image) = source.resultCount? producer := by
  cases producer with
  | var id => rw [Producer.renumbered, Scope.resultCount?, Scope.resultCount?, reflects.storage]
  | node id =>
      rw [Producer.renumbered, Scope.resultCount?, Scope.resultCount?, reflects.lookup id mentioned]
      cases source.function.node? id with
      | none => rfl
      | some node => rfl

theorem reflected_type (edge : Edge) (mentioned : edge.producer.Among among) :
    copy.slotType? (edge.renumbered image) = source.slotType? edge := by
  obtain ⟨producer, slot⟩ := edge
  cases producer with
  | var id => simp only [Edge.renumbered, Producer.renumbered, Scope.slotType?, reflects.storage,
      reflects.types]
  | node id =>
      simp only [Edge.renumbered, Producer.renumbered, Scope.slotType?, reflects.lookup id mentioned,
        reflects.types]
      cases source.function.node? id with
      | none => rfl
      | some node => rfl

theorem reflected_names : copy.checkNames = source.checkNames.mapError (Violation.renumbered image) := by
  have renamed : copy.names = source.names.map fun entry => (entry.1, entry.2.renumbered image) := by
    simp only [Scope.names, Variables.map_values, reflects.storage, reflects.nodes,
      List.map_append, List.map_map]
    rfl
  have mentioned : ∀ producer ∈ source.names.map Prod.snd, producer.Among among := by
    intro producer listed
    obtain ⟨entry, member, rfl⟩ := List.mem_map.mp listed
    rcases List.mem_append.mp member with stored | inside
    · obtain ⟨v, live, rfl⟩ := List.mem_map.mp stored
      trivial
    · obtain ⟨node, there, rfl⟩ := List.mem_map.mp inside
      exact reflects.listed node there
  have same := conflict_renumbered image [] source.names
  rw [← renamed, List.map_nil] at same
  rw [Scope.checkNames, Scope.checkNames, same]
  cases conflict : nameConflict? [] source.names with
  | none => rfl
  | some found =>
      obtain ⟨name, current, previous⟩ := found
      obtain ⟨later, earlier⟩ := conflict_listed [] source.names name current previous conflict
      have first := reflected_descriptor image among source copy reflects current
        (mentioned current later)
      have second := reflected_descriptor image among source copy reflects previous
        (mentioned previous earlier)
      simp only [Option.map_some, first, second]
      rfl

theorem reflected_input (node : Node) (i : Nat) (edge : Edge) (mentioned : edge.producer.Among among) :
    copy.checkInput (node.renumbered image) i (edge.renumbered image) =
      (source.checkInput node i edge).mapError (Violation.renumbered image) := by
  rw [Scope.checkInput, Scope.checkInput, Edge.renumbered,
    reflected_count image among source copy reflects edge.producer mentioned]
  cases source.resultCount? edge.producer with
  | none => rfl
  | some available =>
      by_cases inside : edge.slot < available
      · simp only [if_pos inside]
        rfl
      · simp only [if_neg inside]
        rfl

theorem reflected_predicate (node : Node)
    (mentioned : ∀ edge ∈ node.predicate, edge.producer.Among among) :
    copy.checkPredicate (node.renumbered image) =
      (source.checkPredicate node).mapError (Violation.renumbered image) := by
  rw [Scope.checkPredicate, Scope.checkPredicate, Node.renumbered]
  cases guard : node.predicate with
  | none => rfl
  | some edge =>
      simp only [Option.map_some, Edge.renumbered]
      rw [reflected_count image among source copy reflects edge.producer (mentioned edge guard)]
      cases source.resultCount? edge.producer with
      | none => rfl
      | some available =>
          by_cases inside : edge.slot < available
          · simp only [if_pos inside]
            rfl
          · simp only [if_neg inside]
            rfl

theorem reflected_edges (node : Node) (inside : node ∈ source.function.nodes) :
    copy.checkEdges (node.renumbered image) =
      (source.checkEdges node).mapError (Violation.renumbered image) := by
  have mentioned := reflects.closed node inside
  have predicate := reflected_predicate image among source copy reflects node fun edge guard =>
    mentioned edge (List.mem_append_right _ (Option.mem_toList.mpr guard))
  rw [Scope.checkEdges, Scope.checkEdges, then_map_error, predicate, renumbered_inputs]
  congr 1
  refine check_all_map_error _ _ _ _ node.inputs.zipIdx ?_
  intro input listed
  have member : input.1 ∈ node.inputs := List.fst_mem_of_mem_zipIdx listed
  exact reflected_input image among source copy reflects node input.2 input.1
    (mentioned input.1 (List.mem_append_left _ member))

theorem reflected_input_types (edges : List Edge) (mentioned : ∀ edge ∈ edges, edge.producer.Among among)
    (typed : ∀ edge ∈ edges, ∃ type, source.slotType? edge = some type) :
    ∃ types, source.inputTypes edges = .ok types ∧
      copy.inputTypes (edges.map (Edge.renumbered image)) = .ok types := by
  induction edges with
  | nil => exact ⟨[], rfl, rfl⟩
  | cons edge rest ih =>
      obtain ⟨mentionedHead, mentionedRest⟩ := List.forall_mem_cons.mp mentioned
      obtain ⟨⟨type, known⟩, typedRest⟩ := List.forall_mem_cons.mp typed
      obtain ⟨types, original, reflected⟩ := ih mentionedRest typedRest
      have same := reflected_type image among source copy reflects edge mentionedHead
      refine ⟨type :: types, ?_, ?_⟩
      · simp only [Scope.inputTypes, known, original]
        rfl
      · simp only [List.map_cons, Scope.inputTypes, same, known, reflected]
        rfl

theorem reflected_result_types (handles : List TypeHandle) :
    copy.resultTypes handles = source.resultTypes handles := by
  induction handles with
  | nil => rfl
  | cons handle rest ih => rw [Scope.resultTypes, Scope.resultTypes, ih, reflects.types]

-- A node whose edges carry types can only be blamed for its results or by its operator, and neither
-- blame has a number.
theorem reflected_check (node : Node) (mentioned : ∀ edge ∈ node.inputs, edge.producer.Among among)
    (typed : ∀ edge ∈ node.inputs, ∃ type, source.slotType? edge = some type)
    (known : ∃ types, source.resultTypes node.results = .ok types) :
    copy.checkNode (node.renumbered image) =
      (source.checkNode node).mapError (Violation.renumbered image) := by
  obtain ⟨operands, original, reflected⟩ :=
    reflected_input_types image among source copy reflects node.inputs mentioned typed
  obtain ⟨types, results⟩ := known
  have again := (reflected_result_types image among source copy reflects node.results).trans results
  have sourceFault : source.nodeFault node =
      (node.operator.check operands types).mapError .operator := by
    rw [Scope.nodeFault, original, results]
    rfl
  have copyFault : copy.nodeFault (node.renumbered image) =
      (node.operator.check operands types).mapError .operator := by
    rw [Scope.nodeFault, Node.renumbered, reflected, again]
    rfl
  rw [Scope.checkNode, Scope.checkNode, sourceFault, copyFault]
  cases node.operator.check operands types with
  | error fault => rfl
  | ok passed => rfl

theorem open_reflected (path : List Function.Frame)
    (mentioned : ∀ frame ∈ path, among frame.node) (id : NodeId)
    (here : among id) :
    Function.isOpen (path.map (Function.Frame.renumbered image)) (image id) = true ↔
      Function.isOpen path id = true := by
  simp only [Function.isOpen, List.any_map, List.any_eq_true, beq_iff_eq, Function.comp_apply,
    Function.Frame.renumbered]
  exact exists_congr fun frame => and_congr_right fun member =>
    ⟨reflects.apart frame.node id (mentioned frame member) here, congrArg image⟩

theorem finished_reflected (finished : List NodeId) (mentioned : ∀ id ∈ finished, among id) (id : NodeId)
    (here : among id) :
    (finished.map image).contains (image id) = true ↔ finished.contains id = true := by
  simp only [List.contains_iff_mem, List.mem_map]
  constructor
  · rintro ⟨other, member, same⟩
    rw [← reflects.apart other id (mentioned other member) here same]
    exact member
  · exact fun member => ⟨id, member, rfl⟩

theorem dependencies_mentioned (node : Node) (inside : node ∈ source.function.nodes) (other : NodeId)
    (listed : other ∈ node.dependencies) : among other := by
  obtain ⟨edge, reads, leads⟩ := (dependency_iff node other).mp listed
  have mentioned := reflects.closed node inside edge reads
  rw [leads] at mentioned
  exact mentioned

end Reflection

-- What two searches come to when the second runs over the images of what the first runs over.
inductive Function.SearchedAlike (image : NodeId → NodeId) (among : NodeId → Prop) :
    Except NodeId (List NodeId) → Except NodeId (List NodeId) → Prop where
  | finished (ids : List NodeId) (mentioned : ∀ id ∈ ids, among id) :
      SearchedAlike image among (.ok ids) (.ok (ids.map image))
  | blamed (id : NodeId) (mentioned : among id) :
      SearchedAlike image among (.error id) (.error (image id))

def Function.Frame.Among (among : NodeId → Prop) (frame : Function.Frame) : Prop :=
  among frame.node ∧ ∀ other ∈ frame.pending, among other

theorem rest_mentioned (among : NodeId → Prop) (current next : NodeId) (pending : List NodeId)
    (path : List Function.Frame)
    (listed : ∀ frame ∈ ⟨current, next :: pending⟩ :: path, frame.Among among) :
    among next ∧ ∀ frame ∈ ⟨current, pending⟩ :: path, frame.Among among := by
  obtain ⟨⟨here, due⟩, outer⟩ := List.forall_mem_cons.mp listed
  obtain ⟨dueNext, dueLater⟩ := List.forall_mem_cons.mp due
  exact ⟨dueNext, List.forall_mem_cons.mpr ⟨⟨here, dueLater⟩, outer⟩⟩

section Search

variable (image : NodeId → NodeId) (among : NodeId → Prop) (source copy : Scope)
  (reflects : source.Reflects image among copy)

include reflects

theorem search_reflected (finished : List NodeId) (path : List Function.Frame)
    (done : ∀ id ∈ finished, among id) (listed : ∀ frame ∈ path, frame.Among among) :
    Function.SearchedAlike image among (source.function.search finished path)
      (copy.function.search (finished.map image) (path.map (Function.Frame.renumbered image))) := by
  -- The second search makes each move of the first, because all that it compares are images of
  -- different nodes.
  induction finished, path using Function.search.induct source.function with
  | case1 finished =>
      rw [List.map_nil, Function.search, Function.search]
      exact .finished finished done
  | case2 finished current path ih =>
      obtain ⟨⟨here, _⟩, outer⟩ := List.forall_mem_cons.mp listed
      rw [Function.search, List.map_cons, Function.Frame.renumbered, List.map_nil, Function.search]
      exact ih (List.forall_mem_cons.mpr ⟨here, done⟩) outer
  | case3 finished current next pending path opened =>
      obtain ⟨here, _⟩ := rest_mentioned among current next pending path listed
      have copyOpened :=
        (open_reflected image among source copy reflects _ (fun frame member => (listed frame member).1)
        next here).mpr opened
      rw [List.map_cons, Function.Frame.renumbered, List.map_cons] at copyOpened ⊢
      rw [Function.search, dif_pos opened, Function.search, dif_pos copyOpened]
      exact .blamed next here
  | case4 finished current next pending path unopened isDone ih =>
      obtain ⟨here, rest⟩ := rest_mentioned among current next pending path listed
      have copyUnopened := mt (open_reflected image among source copy reflects _
        (fun frame member => (listed frame member).1) next here).mp unopened
      have copyDone :=
        (finished_reflected image among source copy reflects finished done next here).mpr isDone
      rw [List.map_cons, Function.Frame.renumbered, List.map_cons] at copyUnopened ⊢
      rw [search_done source.function finished current next pending path unopened isDone,
        search_done copy.function _ _ _ _ _ copyUnopened copyDone]
      exact ih done rest
  | case5 finished current next pending path unopened undone missing ih =>
      obtain ⟨here, rest⟩ := rest_mentioned among current next pending path listed
      have copyUnopened := mt (open_reflected image among source copy reflects _
        (fun frame member => (listed frame member).1) next here).mp unopened
      have copyUndone :=
        mt (finished_reflected image among source copy reflects finished done next here).mp undone
      have copyMissing := reflects.lookup next here
      rw [missing, Option.map_none] at copyMissing
      rw [List.map_cons, Function.Frame.renumbered, List.map_cons] at copyUnopened ⊢
      rw [search_missing source.function finished current next pending path unopened undone missing,
        search_missing copy.function _ _ _ _ _ copyUnopened copyUndone copyMissing]
      exact ih done rest
  | case6 finished current next pending path unopened undone node found ih =>
      obtain ⟨here, rest⟩ := rest_mentioned among current next pending path listed
      have copyUnopened := mt (open_reflected image among source copy reflects _
        (fun frame member => (listed frame member).1) next here).mp unopened
      have copyUndone :=
        mt (finished_reflected image among source copy reflects finished done next here).mp undone
      have copyFound := reflects.lookup next here
      rw [found, Option.map_some] at copyFound
      rw [List.map_cons, Function.Frame.renumbered, List.map_cons] at copyUnopened ⊢
      rw [search_found source.function finished current next pending path unopened undone node found,
        search_found copy.function _ _ _ _ _ copyUnopened copyUndone _ copyFound,
          renumbered_dependencies, ← List.map_reverse]
      refine ih done (List.forall_mem_cons.mpr ⟨⟨here, ?_⟩, rest⟩)
      intro other member
      exact dependencies_mentioned image among source copy reflects node
        (found_listed source.function next node found) other
        (List.mem_reverse.mp member)

theorem search_all_reflected (roots : List Node) (finished : List NodeId)
    (inside : ∀ root ∈ roots, root ∈ source.function.nodes) (done : ∀ id ∈ finished, among id) :
    Function.SearchedAlike image among (source.function.searchAll finished roots)
      (copy.function.searchAll (finished.map image) (roots.map (Node.renumbered image))) := by
  induction roots generalizing finished with
  | nil => exact .finished finished done
  | cons root rest ih =>
      obtain ⟨there, later⟩ := List.forall_mem_cons.mp inside
      have here := reflects.listed root there
      have sameDone := finished_reflected image among source copy reflects finished done root.id here
      have sameId : (root.renumbered image).id = image root.id := rfl
      rw [List.map_cons, Function.searchAll, Function.searchAll, sameId]
      by_cases visited : finished.contains root.id = true
      · rw [if_pos visited, if_pos (sameDone.mpr visited)]
        exact ih finished later done
      · rw [if_neg visited, if_neg (mt sameDone.mp visited), renumbered_dependencies, ← List.map_reverse]
        have alike := search_reflected image among source copy reflects finished
          [⟨root.id, root.dependencies.reverse⟩] done
          (List.forall_mem_singleton.mpr ⟨here, fun other member =>
            dependencies_mentioned image among source copy reflects root there other
              (List.mem_reverse.mp member)⟩)
        rw [List.map_singleton, Function.Frame.renumbered] at alike
        generalize source.function.search finished [⟨root.id, root.dependencies.reverse⟩] = first
          at alike
        generalize copy.function.search (finished.map image)
          [⟨image root.id, root.dependencies.reverse.map image⟩] = second at alike
        cases alike with
        | finished ids reached => exact ih ids later reached
        | blamed id mentioned => exact .blamed id mentioned

theorem reflected_acyclic : copy.checkAcyclic =
    source.checkAcyclic.mapError (Violation.renumbered image) := by
  have alike := search_all_reflected image among source copy reflects source.function.nodes []
    (fun _ member => member) (by simp)
  rw [List.map_nil, ← reflects.nodes] at alike
  rw [Scope.checkAcyclic, Scope.checkAcyclic, Function.cyclicNode?, Function.cyclicNode?]
  generalize source.function.searchAll [] source.function.nodes = first at alike
  generalize copy.function.searchAll [] copy.function.nodes = second at alike
  cases alike with
  | finished ids _ => rfl
  | blamed id mentioned =>
      have sameName := reflected_name image among source copy reflects (.node id) mentioned
      rw [Producer.renumbered] at sameName
      simp only [sameName]
      rfl

theorem verify_reflected (limit : Nat) (indexed : source.function.Indexed)
    (kept : VariablesKept source.storage source.types limit)
    (known : ∀ node ∈ source.function.nodes, ∀ handle ∈ node.results, ∃ type,
      source.types.get? handle = some type) :
    copy.verify = source.verify.mapError (Violation.renumbered image) := by
  have edges : checkAll copy.checkEdges copy.function.nodes =
      (checkAll source.checkEdges source.function.nodes).mapError (Violation.renumbered image) := by
    rw [reflects.nodes]
    exact check_all_map_error _ _ _ _ _ fun node inside =>
      reflected_edges image among source copy reflects node inside
  rw [Scope.verify, Scope.verify, then_map_error, then_map_error, then_map_error,
    reflected_names image among source copy reflects,
      reflected_acyclic image among source copy reflects, edges]
  cases passed : checkAll source.checkEdges source.function.nodes with
  | error fault => rfl
  | ok _ =>
      have closed := (check_all_ok_iff source.checkEdges source.function.nodes).mp passed
      have nodes : checkAll copy.checkNode copy.function.nodes =
          (checkAll source.checkNode source.function.nodes).mapError (Violation.renumbered image) := by
        rw [reflects.nodes]
        refine check_all_map_error _ _ _ _ _ fun node inside => ?_
        have leads := (check_edges_iff source limit kept indexed node).mp (closed node inside)
        refine reflected_check image among source copy reflects node ?_ ?_
          (results_known source node.results (known node inside))
        · exact fun edge reads => reflects.closed node inside edge (List.mem_append_left _ reads)
        · intro edge reads
          exact led_edge_typed source limit kept indexed known edge
            (leads edge (List.mem_append_left _ reads))
      rw [nodes]

end Search

section Mirror

variable (image : NodeId → NodeId) (source copy : Scope) (mirrors : source.Mirrors image copy)

include mirrors

theorem mirrors_reflect : source.Reflects image (fun id => source.Holds (.node id)) copy where
  types := mirrors.types
  storage := mirrors.storage
  nodes := mirrors.nodes
  apart a b heldA heldB same := by
    obtain ⟨first, inside, rfl⟩ := heldA
    obtain ⟨second, there, rfl⟩ := heldB
    exact mirrors.apart first inside second there same
  lookup id held := by
    obtain ⟨node, inside, rfl⟩ := held
    rw [(node_iff source.function mirrors.sourceIndexed node.id node).mpr ⟨inside, rfl⟩, Option.map_some]
    refine (node_iff copy.function mirrors.copyIndexed _ _).mpr ⟨?_, rfl⟩
    rw [mirrors.nodes]
    exact List.mem_map_of_mem inside
  listed node inside := ⟨node, inside, rfl⟩
  closed node inside edge reads := by
    have held := mirrors.closed node inside edge reads
    generalize edge.producer = producer at held
    cases producer with
    | var id => trivial
    | node id => exact held

theorem verify_mirrored (limit : Nat) (kept : VariablesKept source.storage source.types limit)
    (known : ∀ node ∈ source.function.nodes, ∀ handle ∈ node.results, ∃ type,
      source.types.get? handle = some type) :
    copy.verify = source.verify.mapError (Violation.renumbered image) :=
  verify_reflected image _ source copy (mirrors_reflect image source copy mirrors) limit
    mirrors.sourceIndexed kept known

end Mirror

end TensorGraph
