import TensorGraph.Proofs.Construction
import TensorGraph.Proofs.CopyVerification
import TensorGraph.Proofs.MarkedSearches
import TensorGraph.Proofs.Rewiring

set_option autoImplicit false

namespace TensorGraph

-- What a producer computes is computed from what the node does, over any number of reads.
def Function.Reaches (function : Function) (producer : Producer) (node : Node) : Prop :=
  ∃ source ∈ function.nodes, producer = .node source.id ∧
    Relation.TransGen function.ReadsFrom source node

-- A change by which a node comes to read one edge more, in the place of an edge or as its guard.
structure Node.Redirects (change : Node → Node) (node : Node) (edge : Edge) : Prop where
  preserves : Node.Preserves change
  named : ∀ before, (change before).name = before.name
  taken : edge ∈ (change node).reads
  others : ∀ other ∈ (change node).reads, other = edge ∨ other ∈ node.reads

def Scope.edit (scope : Scope) (id : NodeId) (change : Node → Node) : Scope :=
  { scope with function := scope.function.edit id change }

-- What becomes of a verification when a node is edited, and the edit undone.
structure Network.Redirects (settings : Settings) (network : Network) (id : FunctionId)
    (function : Function) (node : Node) (edge : Edge) (edit undo : Network → Network) : Prop where
  accepted : ((edit network).verifyFunction settings id).1 = .ok () ↔
    edge.producer ≠ .node node.id ∧ ¬ function.Reaches edge.producer node
  refused : ((edit network).verifyFunction settings id).1 ≠ .ok () →
    ∃ name, ((edit network).verifyFunction settings id).1 = .error (.violation (.cycle name))
  undone : undo (edit network) = network
  restored : ((undo ((edit network).verifyFunction settings id).2).verifyFunction settings id).1 = .ok ()

-- A path by way of some new steps, all of which start at one place, uses none of them or has a first and
-- a last one.
theorem new_steps_crossed {α : Type} (old steps : α → α → Prop) (start : α) (new : α → Prop)
    (split : ∀ a b, steps a b → old a b ∨ a = start ∧ new b) (a b : α)
    (path : Relation.TransGen steps a b) :
    Relation.TransGen old a b ∨
      Relation.ReflTransGen old a start ∧ ∃ entered, new entered ∧
        Relation.ReflTransGen old entered b := by
  induction path with
  | single step =>
      rcases split _ _ step with older | ⟨rfl, entered⟩
      · exact .inl (.single older)
      · exact .inr ⟨.refl, _, entered, .refl⟩
  | tail _ step ih =>
      rcases ih with earlier | ⟨before, entered, first, after⟩
      · rcases split _ _ step with older | ⟨rfl, entered⟩
        · exact .inl (earlier.tail older)
        · exact .inr ⟨earlier.to_reflTransGen, _, entered, .refl⟩
      · rcases split _ _ step with older | ⟨rfl, again⟩
        · exact .inr ⟨before, entered, first, after.tail older⟩
        · exact .inr ⟨before, _, again, .refl⟩

theorem ordered_iff_no_cycle (function : Function) (indexed : function.Indexed) :
    function.Ordered ↔ ∀ id, ¬ Relation.TransGen function.Depends id id := by
  constructor
  · intro order id cycle
    obtain ⟨rank, falls⟩ := (ordered_iff function indexed).mp order
    exact Nat.lt_irrefl _ (no_cycle_in_order function rank falls id id cycle)
  · intro free
    have stand : ∀ root ∈ function.nodes, function.node? root.id = some root :=
      fun root inside => (node_iff function indexed root.id root).mpr ⟨inside, rfl⟩
    rw [← acyclic_iff function indexed, Function.cyclicNode?]
    cases searched : function.searchAll [] function.nodes with
    | ok finished => rfl
    | error id => exact absurd (search_all_blames function _ stand [] id searched) (free id)

theorem yields_iff (scope : Scope) (limit : Nat) (kept : VariablesKept scope.storage scope.types limit)
    (indexed : scope.function.Indexed) (edge : Edge) (type : TensorType) :
    scope.Yields edge type ↔ scope.Leads edge ∧ scope.Carries edge type := by
  refine ⟨?_, fun ⟨leads, carries⟩ => carried_yields scope limit kept indexed edge type leads carries⟩
  rintro ⟨handle, resolved, known⟩
  obtain ⟨producer, slot⟩ := edge
  cases producer with
  | var id =>
      obtain ⟨first, v, found, rfl⟩ := (variable_handle_iff _ id slot handle).mp resolved
      obtain ⟨stored, same⟩ := (variable_iff _ _ _ kept id v).mp found
      exact ⟨⟨first, v, stored, same⟩, v, stored, same, known⟩
  | node id =>
      obtain ⟨node, found, held⟩ := (node_handle_iff _ id slot handle).mp resolved
      obtain ⟨inside, same⟩ := (node_iff _ indexed id node).mp found
      exact ⟨⟨node, inside, same, (List.getElem?_eq_some_iff.mp held).1⟩, node, inside, same,
        handle, held, known⟩

theorem replaced_operand {α β : Type} (related : α → β → Prop) (items : List α) (images : List β)
    (i : Nat) (old new : α) (image : β) (all : List.Forall₂ related items images)
    (access : items[i]? = some old) (held : ∀ other, related old other → other = image)
    (fits : related new image) :
    List.Forall₂ related (items.set i new) images := by
  induction all generalizing i with
  | nil => exact .nil
  | cons here later ih =>
      cases i with
      | zero =>
          obtain rfl := Option.some.inj access
          exact .cons (held _ here ▸ fits) later
      | succ i => exact .cons here (ih i access)

section Edited

variable (scope : Scope) (indexed : scope.function.Indexed) (node : Node)
  (inside : node ∈ scope.function.nodes) (edge : Edge) (change : Node → Node)
  (redirects : Node.Redirects change node edge)

include indexed inside

theorem edited_inside (other : Node) : other ∈ (scope.edit node.id change).function.nodes ↔
    ∃ old ∈ scope.function.nodes, other = if old = node then change node else old := by
  rw [Scope.edit, edit_nodes scope.function indexed]
  refine exists_congr fun old => and_congr_right fun there => ?_
  by_cases same : old = node
  · subst old
    rw [if_pos rfl, if_pos rfl]
  · rw [if_neg same, if_neg fun number =>
      same (List.inj_on_of_nodup_map (node_ids_apart _ indexed) there inside number)]

theorem edit_undone (undo : Node → Node) (back : undo (change node) = node) :
    (scope.function.edit node.id change).edit node.id undo = scope.function := by
  have found := (node_iff scope.function indexed node.id node).mpr ⟨inside, rfl⟩
  obtain ⟨position, stored⟩ := Function.lookup_of_node? found
  have access : scope.function.nodes[position]? = some node := by
    simpa [Function.node?, stored] using found
  simp only [Function.edit, stored, List.modify_modify_eq]
  rw [unchanged_by_modify]
  intro other again
  rw [access] at again
  rw [← Option.some.inj again]
  exact back

include redirects

omit inside in
theorem edited_indexed : (scope.edit node.id change).function.Indexed :=
  edit_indexed scope.function indexed node.id change fun before => (redirects.preserves before).1

-- Every node still stands, with the number and the results that it had.
theorem edited_from (old : Node) (there : old ∈ scope.function.nodes) :
    ∃ other ∈ (scope.edit node.id change).function.nodes, other.id = old.id ∧
      other.results = old.results ∧
      (old ≠ node → other = old) := by
  refine ⟨_, (edited_inside scope indexed node inside change _).mpr ⟨old, there, rfl⟩, ?_⟩
  by_cases same : old = node
  · subst old
    obtain ⟨number, _, results⟩ := redirects.preserves node
    simp [number, results]
  · simp [same]

theorem edited_to (other : Node) (there : other ∈ (scope.edit node.id change).function.nodes) :
    ∃ old ∈ scope.function.nodes, other.id = old.id ∧
      ∀ read ∈ other.reads, read ∈ old.reads ∨ old = node ∧ read = edge := by
  obtain ⟨old, before, rfl⟩ := (edited_inside scope indexed node inside change other).mp there
  refine ⟨old, before, ?_⟩
  by_cases same : old = node
  · subst same
    rw [if_pos rfl]
    exact ⟨(redirects.preserves old).1, fun read listed => (redirects.others read listed).symm.imp_right
      fun new => ⟨rfl, new⟩⟩
  · rw [if_neg same]
    exact ⟨rfl, fun read listed => .inl listed⟩

theorem edited_leads (other : Edge) (leads : scope.Leads other) :
    (scope.edit node.id change).Leads other := by
  obtain ⟨producer, slot⟩ := other
  cases producer with
  | var id => exact leads
  | node id =>
      obtain ⟨old, there, rfl, below⟩ := leads
      obtain ⟨after, stands, number, results, _⟩ :=
        edited_from scope indexed node inside edge change redirects old there
      exact ⟨after, stands, number, results ▸ below⟩

theorem edited_carries (other : Edge) (type : TensorType) (carries : scope.Carries other type) :
    (scope.edit node.id change).Carries other type := by
  obtain ⟨producer, slot⟩ := other
  cases producer with
  | var id => exact carries
  | node id =>
      obtain ⟨old, there, rfl, handle, held, known⟩ := carries
      obtain ⟨after, stands, number, results, _⟩ :=
        edited_from scope indexed node inside edge change redirects old there
      exact ⟨after, stands, number, handle, results ▸ held, known⟩

theorem edited_fits (other : Node) (fits : scope.Fits other) :
    (scope.edit node.id change).Fits other := by
  obtain ⟨operands, types, carried, known, checked⟩ := fits.accepted
  refine ⟨fits.inputs, fits.results, operands, types, carried.imp ?_, known, checked⟩
  exact edited_carries scope indexed node inside edge change redirects

omit inside in
theorem redirected_names :
    (scope.edit node.id change).function.nodes.map Node.name = scope.function.nodes.map Node.name := by
  have names := edited_names (fun _ => true) scope.function indexed node.id change redirects.preserves
    (.inr redirects.named)
  simpa [Function.names, Scope.edit] using names

theorem edited_depends (a b : NodeId) (depends : (scope.edit node.id change).function.Depends a b) :
    scope.function.Depends a b ∨ a = node.id ∧ edge.producer = .node b := by
  have editedIndexed := edited_indexed scope indexed node edge change redirects
  obtain ⟨reader, source, rfl, rfl, there, present, read, listed, leads⟩ :=
    (depends_iff _ editedIndexed a b).mp depends
  obtain ⟨old, before, number, reads⟩ :=
    edited_to scope indexed node inside edge change redirects reader there
  obtain ⟨target, stands, again, _⟩ :=
    edited_to scope indexed node inside edge change redirects source present
  rcases reads read listed with older | ⟨rfl, rfl⟩
  · exact .inl ((depends_iff _ indexed _ _).mpr ⟨old, target, number.symm, again.symm, before, stands,
      read, older, again ▸ leads⟩)
  · exact .inr ⟨number, leads⟩

theorem kept_depends (a b : NodeId) (elsewhere : a ≠ node.id) (depends : scope.function.Depends a b) :
    (scope.edit node.id change).function.Depends a b := by
  obtain ⟨reader, source, rfl, rfl, there, present, read, listed, leads⟩ :=
    (depends_iff _ indexed a b).mp depends
  obtain ⟨same, stays, _, _, unchanged⟩ :=
    edited_from scope indexed node inside edge change redirects reader there
  obtain rfl := unchanged fun here => elsewhere (congrArg Node.id here)
  obtain ⟨target, stands, number, _, _⟩ :=
    edited_from scope indexed node inside edge change redirects source present
  have editedIndexed := edited_indexed scope indexed node edge change redirects
  exact (depends_iff _ editedIndexed _ _).mpr ⟨same, target, rfl, number, stays, stands, read, listed,
    number ▸ leads⟩

theorem new_depends (id : NodeId) (reads : edge.producer = .node id) (leads : scope.Leads edge) :
    (scope.edit node.id change).function.Depends node.id id := by
  have editedIndexed := edited_indexed scope indexed node edge change redirects
  have changed := (edited_inside scope indexed node inside change _).mpr ⟨node, inside, rfl⟩
  rw [if_pos rfl] at changed
  obtain ⟨producer, slot⟩ := edge
  obtain rfl : producer = .node id := reads
  obtain ⟨old, there, rfl, _⟩ := leads
  obtain ⟨target, stands, number, _, _⟩ :=
    edited_from scope indexed node inside _ change redirects old there
  exact (depends_iff _ editedIndexed _ _).mpr
    ⟨change node, target, (redirects.preserves node).1, number, changed, stands, _, redirects.taken,
      congrArg Producer.node number.symm⟩

-- The first node of a path that is the edited one ends it, and the steps before that are untouched.
theorem kept_path (a : NodeId) (path : Relation.ReflTransGen scope.function.Depends a node.id) :
    Relation.ReflTransGen (scope.edit node.id change).function.Depends a node.id := by
  induction path using Relation.ReflTransGen.head_induction_on with
  | refl => exact .refl
  | @head first _ step _ ih =>
      by_cases here : first = node.id
      · rw [here]
      · exact .head (kept_depends scope indexed node inside edge change redirects _ _ here step) ih

theorem edited_ordered_iff (order : scope.function.Ordered) (leads : scope.Leads edge) :
    (scope.edit node.id change).function.Ordered ↔
      ¬ ∃ id, edge.producer = .node id ∧ Relation.ReflTransGen scope.function.Depends id node.id := by
  have editedIndexed := edited_indexed scope indexed node edge change redirects
  have free := (ordered_iff_no_cycle scope.function indexed).mp order
  rw [ordered_iff_no_cycle _ editedIndexed]
  constructor
  · rintro editedFree ⟨id, reads, path⟩
    have entered := new_depends scope indexed node inside edge change redirects id reads leads
    exact editedFree node.id (.head' entered
      (kept_path scope indexed node inside edge change redirects id path))
  · intro unreached id cycle
    rcases new_steps_crossed _ _ node.id (fun b => edge.producer = .node b)
      (edited_depends scope indexed node inside edge change redirects) id id cycle
        with older | ⟨before, entered, reads, after⟩
    · exact free id older
    · exact unreached ⟨entered, reads, after.trans before⟩

omit redirects in
theorem unreached_iff : edge.producer ≠ .node node.id ∧ ¬ scope.function.Reaches edge.producer node ↔
    ¬ ∃ id, edge.producer = .node id ∧ Relation.ReflTransGen scope.function.Depends id node.id := by
  rw [← not_or]
  refine not_congr ⟨?_, ?_⟩
  · rintro (here | ⟨source, _, same, path⟩)
    · exact ⟨node.id, here, .refl⟩
    · refine ⟨source.id, same, (path.lift Node.id fun reader read reads => ?_).to_reflTransGen⟩
      exact (depends_iff _ indexed _ _).mpr ⟨reader, read, rfl, rfl, reads⟩
  · rintro ⟨id, same, path⟩
    rcases Relation.reflTransGen_iff_eq_or_transGen.mp path with here | further
    · exact .inl (here ▸ same)
    · obtain ⟨source, last, rfl, there, stands, reading⟩ :=
        reading_path scope.function indexed _ _ further
      obtain rfl := List.inj_on_of_nodup_map (node_ids_apart scope.function indexed) stands inside there
      obtain ⟨_, ⟨present, _⟩, _⟩ := Relation.TransGen.head'_iff.mp reading
      exact .inr ⟨source, present, same, reading⟩

variable (limit : Nat) (kept : VariablesKept scope.storage scope.types limit) (sound : scope.WellFormed)
  (leads : scope.Leads edge) (fits : scope.Fits (change node))

include kept sound leads fits

-- All that comes before the search for a cycle depends on types, slots and names only.
theorem edited_verdict : (scope.edit node.id change).verify =
    (scope.edit node.id change).checkAcyclic := by
  have editedIndexed := edited_indexed scope indexed node edge change redirects
  have names : (scope.edit node.id change).checkNames = .ok () := by
    rw [check_names_iff, redirected_names scope indexed node edge change redirects]
    exact sound.names
  have edges : checkAll (scope.edit node.id change).checkEdges
      (scope.edit node.id change).function.nodes = .ok () := by
    refine (check_all_ok_iff _ _).mpr fun other there =>
      (check_edges_iff (scope.edit node.id change) limit kept editedIndexed other).mpr ?_
    intro read listed
    obtain ⟨old, before, _, reads⟩ :=
      edited_to scope indexed node inside edge change redirects other there
    refine edited_leads scope indexed node inside edge change redirects read ?_
    rcases reads read listed with older | ⟨_, rfl⟩
    · exact sound.edges old before read older
    · exact leads
  have nodes : checkAll (scope.edit node.id change).checkNode
      (scope.edit node.id change).function.nodes = .ok () := by
    refine (check_all_ok_iff _ _).mpr fun other there =>
      (check_node_iff (scope.edit node.id change) limit kept editedIndexed other).mpr ?_
    refine edited_fits scope indexed node inside edge change redirects other ?_
    obtain ⟨old, before, rfl⟩ := (edited_inside scope indexed node inside change other).mp there
    split
    · exact fits
    · exact sound.nodes old before
  rw [Scope.verify, names, edges, nodes]
  rfl

theorem edited_verdict_iff : (scope.edit node.id change).verify = .ok () ↔
    edge.producer ≠ .node node.id ∧ ¬ scope.function.Reaches edge.producer node := by
  have editedIndexed := edited_indexed scope indexed node edge change redirects
  rw [edited_verdict scope indexed node inside edge change redirects limit kept sound leads fits,
    check_acyclic_iff _ editedIndexed,
    edited_ordered_iff scope indexed node inside edge change redirects sound.order leads,
    unreached_iff scope indexed node inside edge]

theorem edited_fault (violation : Violation)
    (failed : (scope.edit node.id change).verify = .error violation) :
    ∃ name, violation = .cycle name := by
  rw [edited_verdict scope indexed node inside edge change redirects limit kept sound leads fits,
    Scope.checkAcyclic] at failed
  split at failed
  · cases failed
  · exact ⟨_, (Except.error.inj failed).symm⟩

end Edited

section Networks

variable (settings : Settings) (network : Network) (kept : network.Represented) (id : FunctionId)
  (function : Function) (found : network.function? id = some function) (node : Node)
  (inside : node ∈ function.nodes)

theorem verification_journals : ∃ events, (network.verifyFunction settings id).2 =
    { network with journal := events } := by
  unfold Network.verifyFunction
  split
  · exact ⟨network.journal, rfl⟩
  · unfold Network.verifyOne
    split
    · exact ⟨network.journal, rfl⟩
    · exact ⟨_, rfl⟩

include kept found inside

theorem node_edited {α : Type} (answer : Node → α) (change : Node → Node) :
    network.editNode id node.id answer change =
      (.ok (answer node), network.updateFunction id fun function => function.edit node.id change) := by
  have indexed := kept.functions.indexed function (List.mem_of_getElem? found)
  have present := (node_iff function indexed node.id node).mpr ⟨inside, rfl⟩
  simp only [Network.editNode, found, present]

omit kept inside in
theorem edited_found (change : Node → Node) :
    (network.updateFunction id fun function => function.edit node.id change).function? id =
      some (function.edit node.id change) :=
  (List.getElem?_modify_eq ..).trans (congrArg (Option.map _) found)

variable (edge : Edge) (change undo : Node → Node) (redirects : Node.Redirects change node edge)
  (back : undo (change node) = node)

include redirects back

theorem network_edit_undone {α : Type} (answer : Node → α) (events : List Event) :
    Network.editNode { network.updateFunction id
      (fun function => function.edit node.id change) with journal := events } id
      node.id answer undo = (.ok (answer (change node)), { network with journal := events }) := by
  have indexed := kept.functions.indexed function (List.mem_of_getElem? found)
  have editedIndexed := edited_indexed (network.scopeOf function) indexed node edge change redirects
  have stands := (edited_inside (network.scopeOf function) indexed node inside change _).mpr
    ⟨node, inside, rfl⟩
  rw [if_pos rfl] at stands
  have present := (node_iff _ editedIndexed node.id _).mpr ⟨stands, (redirects.preserves node).1⟩
  have again := edited_found network id function found node change
  have sameFunction := edit_undone (network.scopeOf function) indexed node inside change undo back
  have sameFunctions :
      (network.functions.modify id.index fun function => function.edit node.id change).modify id.index
      (fun function => function.edit node.id undo) = network.functions := by
    rw [List.modify_modify_eq, unchanged_by_modify]
    intro other access
    rw [show network.functions[id.index]? = some function from found] at access
    rw [← Option.some.inj access]
    exact sameFunction
  simp only [Network.editNode, Network.function?, Network.updateFunction] at again ⊢
  rw [again]
  dsimp only
  rw [show (function.edit node.id change).node? node.id = some (change node) from present]
  simp only [sameFunctions]

variable (type : TensorType) (typed : (network.scopeOf function).Yields edge type)
  (verified : (network.verifyFunction settings id).1 = .ok ())
  (fits : (network.scopeOf function).Fits (change node))

include type typed verified fits

theorem edits_cycle_only {α β : Type} (answer : Node → α) (reply : Node → β) :
    network.Redirects settings id function node edge
      (fun network => (network.editNode id node.id answer change).2)
      fun network => (network.editNode id node.id reply undo).2 := by
  have indexed := kept.functions.indexed function (List.mem_of_getElem? found)
  have leads := ((yields_iff _ network.nextVariable kept.storage indexed edge type).mp typed).1
  have sound := verified
  rw [Network.verifyFunction, found, verify_one_iff,
    verify_scope_iff _ network.nextVariable kept.storage indexed] at sound
  have edited := node_edited network kept id function found node inside answer change
  have outcome :=
    verify_function_outcome settings _ id _ (edited_found network id function found node change)
  have undone :=
    network_edit_undone network kept id function found node inside edge change undo redirects back reply
  refine ⟨?_, ?_, ?_, ?_⟩
  all_goals simp only [edited]
  · rw [outcome, map_error_ok_iff]
    exact edited_verdict_iff (network.scopeOf function) indexed node inside edge change redirects
      network.nextVariable kept.storage sound leads fits
  · rw [outcome]
    intro refused
    cases failed : (Scope.edit (network.scopeOf function) node.id change).verify with
    | ok passed => exact absurd ((map_error_ok_iff _ _ _).mpr failed) refused
    | error violation =>
        obtain ⟨name, rfl⟩ :=
          edited_fault (network.scopeOf function) indexed node inside edge change redirects
          network.nextVariable kept.storage sound leads fits violation failed
        exact ⟨name, congrArg (Except.mapError GraphFault.violation) failed⟩
  · exact congrArg Prod.snd (undone network.journal)
  · obtain ⟨events, journalled⟩ := verification_journals settings
      (network.updateFunction id fun function => function.edit node.id change) id
    have again := verify_function_outcome settings { network with journal := events } id function found
    rw [journalled, undone events]
    exact again.trans ((verify_function_outcome settings network id function found).symm.trans verified)

end Networks

section Edits

variable (scope : Scope) (node : Node) (edge : Edge)

theorem input_redirects (i : Nat) (old : Edge) (access : node.inputs[i]? = some old) :
    Node.Redirects (fun node => node.withInput i edge) node edge := by
  have inside : i < node.inputs.length := (List.getElem?_eq_some_iff.mp access).1
  refine ⟨fun _ => ⟨rfl, rfl, rfl⟩, fun _ => rfl, List.mem_append_left _ (List.mem_set inside edge), ?_⟩
  intro other listed
  rcases List.mem_append.mp listed with input | guard
  · exact (List.mem_or_eq_of_mem_set input).symm.imp_right (List.mem_append_left _)
  · exact .inr (List.mem_append_right _ guard)

theorem input_restored (i : Nat) (old : Edge) (access : node.inputs[i]? = some old) :
    (node.withInput i edge).withInput i old = node := by
  obtain ⟨_, rfl⟩ := List.getElem?_eq_some_iff.mp access
  simp [Node.withInput]

theorem guard_redirects :
    Node.Redirects (fun node => { node with predicate := some edge }) node edge := by
  refine ⟨fun _ => ⟨rfl, rfl, rfl⟩, fun _ => rfl,
    List.mem_append_right _ (List.mem_singleton_self edge), ?_⟩
  intro other listed
  rcases List.mem_append.mp listed with input | guard
  · exact .inr (List.mem_append_left _ input)
  · exact .inl (List.mem_singleton.mp guard)

variable (limit : Nat) (kept : VariablesKept scope.storage scope.types limit)
  (indexed : scope.function.Indexed)

include kept indexed

theorem like_input_fits (i : Nat) (old : Edge) (access : node.inputs[i]? = some old) (type : TensorType)
    (held : scope.Yields old type) (typed : scope.Yields edge type)
    (leads : ∀ read ∈ node.reads, scope.Leads read)
    (fits : scope.Fits node) : scope.Fits (node.withInput i edge) := by
  obtain ⟨operands, types, carried, known, checked⟩ := fits.accepted
  have led := leads old (List.mem_append_left _ (List.mem_of_getElem? access))
  have same : ∀ other, scope.Carries old other → other = type := fun other carries =>
    yields_unique scope (carried_yields scope limit kept indexed old other led carries) held
  have carries := ((yields_iff scope limit kept indexed edge type).mp typed).2
  have count : (node.inputs.set i edge).length = node.inputs.length := List.length_set
  exact ⟨count ▸ fits.inputs, fits.results, operands, types,
    replaced_operand scope.Carries node.inputs operands i old edge type carried access same carries,
      known, checked⟩

end Edits

-- An input set to a value of its own type, or a guard of any type. The edges are those from before the
-- edit.
theorem redirections_fail_only_by_cycles (settings : Settings) (actions : List Action) (id : FunctionId)
    (function : Function) (node : Node) (edge : Edge) (type : TensorType)
    (found : (Network.run settings .empty actions).function? id = some function)
    (verified : ((Network.run settings .empty actions).verifyFunction settings id).1 = .ok ())
    (inside : node ∈ function.nodes)
    (typed : ((Network.run settings .empty actions).scopeOf function).typeOf edge = .ok type) :
    let network := Network.run settings .empty actions
    (∀ i old, node.inputs[i]? = some old → (network.scopeOf function).typeOf old = .ok type →
      (network.setInput id node.id i edge).1 = .ok (some old) ∧
      network.Redirects settings id function node edge
        (fun network => (network.setInput id node.id i edge).2)
        fun network => (network.setInput id node.id i old).2) ∧
    (network.setPredicate id node.id (some edge)).1 = .ok () ∧
    network.Redirects settings id function node edge
      (fun network => (network.setPredicate id node.id (some edge)).2)
      fun network => (network.setPredicate id node.id node.predicate).2 := by
  intro network
  have kept : network.Represented := run_represented settings .empty actions empty_represented
  have indexed := kept.functions.indexed function (List.mem_of_getElem? found)
  have resolves := (type_of_iff (network.scopeOf function) edge type).mp typed
  have sound := verified
  rw [Network.verifyFunction, found, verify_one_iff,
    verify_scope_iff _ network.nextVariable kept.storage indexed] at sound
  have fits := sound.nodes node inside
  constructor
  · intro i old access same
    have held := (type_of_iff (network.scopeOf function) old type).mp same
    have stillFits := like_input_fits (network.scopeOf function) node edge network.nextVariable
      kept.storage indexed i old access type held resolves (sound.edges node inside) fits
    refine ⟨?_, edits_cycle_only settings network kept id function found node inside edge _ _
      (input_redirects node edge i old access) (input_restored node edge i old access) type resolves
        verified stillFits _ _⟩
    rw [Network.setInput, node_edited network kept id function found node inside, access]
  · refine ⟨?_, edits_cycle_only settings network kept id function found node inside edge _ _
      (guard_redirects node edge) rfl type resolves verified ⟨fits.inputs, fits.results,
        fits.accepted⟩ _ _⟩
    rw [Network.setPredicate, node_edited network kept id function found node inside]

-- The first of two nodes in a row is made to read the second one, and then a variable as a guard.
theorem closed_chain_is_a_cycle :
    let network := Network.run {} .empty [.createFunction "f",
      .createVariable ⟨.plain .float [2], "x", .external, .none⟩,
      .createVariable ⟨.plain .index [], "go", .external, .none⟩,
      .edit ⟨0⟩ (.addLayer "a" (.activation .relu (.ofVariable ⟨0⟩))),
      .edit ⟨0⟩ (.addLayer "b" (.activation .tanh (.ofNode ⟨0⟩)))]
    let looped := (network.setInput ⟨0⟩ ⟨0⟩ 0 (.ofNode ⟨1⟩)).2
    let guarded := (network.setPredicate ⟨0⟩ ⟨0⟩ (some (.ofVariable ⟨1⟩))).2
    (∃ name, (looped.verifyFunction {} ⟨0⟩).1 = .error (.violation (.cycle name))) ∧
      (looped.setInput ⟨0⟩ ⟨0⟩ 0 (.ofVariable ⟨0⟩)).2 = network ∧
        (guarded.verifyFunction {} ⟨0⟩).1 = .ok () := by
  intro network looped guarded
  let first : Node := ⟨⟨0⟩, "a__2", .activation .relu, [.ofVariable ⟨0⟩], [⟨0⟩], none⟩
  let last : Node := ⟨⟨1⟩, "b__3", .activation .tanh, [.ofNode ⟨0⟩], [⟨0⟩], none⟩
  let home : Function :=
    { id := ⟨0⟩, name := "f", nodes := [first, last], positions := [(⟨1⟩, 1), (⟨0⟩, 0)] }
  have found : network.function? ⟨0⟩ = some home := by decide +kernel
  have verified : (network.verifyFunction {} ⟨0⟩).1 = .ok () := by decide +kernel
  have inside : first ∈ home.nodes := List.mem_cons_self
  obtain ⟨toInput, _⟩ :=
    redirections_fail_only_by_cycles {} _ ⟨0⟩ home first (.ofNode ⟨1⟩) (.plain .float [2]) found verified
    inside (by decide +kernel)
  obtain ⟨_, _, toGuard⟩ :=
    redirections_fail_only_by_cycles {} _ ⟨0⟩ home first (.ofVariable ⟨1⟩) (.plain .index []) found
    verified inside (by decide +kernel)
  obtain ⟨_, redirects⟩ := toInput 0 (.ofVariable ⟨0⟩) rfl (by decide +kernel)
  refine ⟨redirects.refused fun passed => ?_, redirects.undone, toGuard.accepted.mpr ⟨nofun, ?_⟩⟩
  · refine (redirects.accepted.mp passed).2
      ⟨last, by simp [home], rfl, .single ⟨by simp [home], inside, .ofNode ⟨0⟩, ?_, rfl⟩⟩
    exact List.mem_cons_self
  · rintro ⟨_, _, ⟨⟩, _⟩

end TensorGraph
