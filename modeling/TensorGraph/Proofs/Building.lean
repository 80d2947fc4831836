import TensorGraph.Proofs.Ledger

set_option autoImplicit false

namespace TensorGraph

theorem backed_shrinks (pristine stranded fewer more : NodeId → Prop) (network : Network)
    (backed : Backed pristine stranded network) (part : ∀ id, fewer id → pristine id)
    (grows : ∀ id, stranded id → more id) : Backed fewer more network := by
  obtain ⟨numbered, certified, closed⟩ := backed
  refine ⟨fun id listed => numbered id (part id listed), ?_, ?_⟩
  · exact fun function member node inside listed => certified function member node inside (part _ listed)
  · exact fun function member node inside listed unstranded =>
      closed function member node inside (part _ listed) fun already => unstranded (grows _ already)

-- What new nodes, numbered from the limit on, have to bring to be listed as pristine.
structure Joins (limit : Nat) (fresh : NodeId → Prop) (network : Network) : Prop where
  unissued : ∀ id, fresh id → limit ≤ id.index
  numbered : ∀ id, fresh id → id.index < network.nextNode
  certified : ∀ function ∈ network.functions, ∀ node ∈ function.nodes, fresh node.id →
    Certified network function node
  closed : ∀ function ∈ network.functions, ∀ node ∈ function.nodes, fresh node.id →
    ∀ edge ∈ node.inputs, (network.scopeOf function).Holds edge.producer

theorem backed_joins (limit : Nat) (fresh pristine stranded : NodeId → Prop) (network : Network)
    (backed : Backed pristine stranded network) (joins : Joins limit fresh network) :
    Backed (fun id => fresh id ∨ pristine id) stranded network := by
  obtain ⟨numbered, certified, closed⟩ := backed
  refine ⟨?_, ?_, ?_⟩
  · exact fun id listed => listed.elim (joins.numbered id) (numbered id)
  · exact fun function member node inside listed =>
      listed.elim (joins.certified function member node inside) (certified function member node inside)
  · intro function member node inside listed unstranded
    rcases listed with new | older
    · exact joins.closed function member node inside new
    · exact closed function member node inside older unstranded

theorem types_of_iff (scope : Scope) (edges : List Edge) (types : List TensorType) :
    scope.typesOf edges = .ok types ↔
      List.Forall₂ (fun edge type => scope.typeOf edge = .ok type) edges types := by
  induction edges generalizing types with
  | nil => simp [Scope.typesOf, eq_comm]
  | cons edge rest ih =>
      rw [List.forall₂_cons_left_iff, Scope.typesOf]
      simp only [bind_ok_iff, ih, Except.ok.injEq]
      constructor
      · rintro ⟨type, head, others, later, rfl⟩
        exact ⟨type, others, head, later, rfl⟩
      · rintro ⟨type, others, head, later, rfl⟩
        exact ⟨type, head, others, later, rfl⟩

theorem type_of_iff (scope : Scope) (edge : Edge) (type : TensorType) : scope.typeOf edge = .ok type ↔
    ∃ handle, scope.handle? edge = some handle ∧ scope.types.get? handle = some type := by
  unfold Scope.typeOf
  cases scope.handle? edge with
  | none => simp
  | some handle =>
      simp only [Option.some.injEq, exists_eq_left']
      cases scope.types.get? handle with
      | none => simp
      | some known => simp

theorem typed_edge (scope : Scope) (limit : Nat) (kept : VariablesKept scope.storage scope.types limit)
    (indexed : scope.function.Indexed) (edge : Edge) (type : TensorType)
    (typed : scope.typeOf edge = .ok type) :
    scope.Recalls edge type ∧ scope.Holds edge.producer := by
  obtain ⟨handle, resolved, known⟩ := (type_of_iff scope edge type).mp typed
  obtain ⟨producer, slot⟩ := edge
  cases producer with
  | var id =>
      obtain ⟨first, v, found, rfl⟩ := (variable_handle_iff _ id slot handle).mp resolved
      refine ⟨⟨first, ?_⟩, v, (variable_iff _ _ _ kept id v).mp found⟩
      intro other member same
      have again := (variable_iff _ _ _ kept id other).mpr ⟨member, same⟩
      rw [found] at again
      rw [← Option.some.inj again]
      exact known
  | node id =>
      obtain ⟨target, found, held⟩ := (node_handle_iff _ id slot handle).mp resolved
      refine ⟨?_, target, (node_iff _ indexed id target).mp found⟩
      intro other member same
      have again := (node_iff _ indexed id other).mpr ⟨member, same⟩
      rw [found] at again
      rw [← Option.some.inj again]
      exact ⟨handle, held, known⟩

-- The new node of a function, found again by its number.
theorem added_node_place (network next : Network) (id : FunctionId) (node : Node) (label : String)
    (adds : network.Adds id node label next) (kept : network.Represented) (function : Function)
    (member : function ∈ next.functions) (other : Node) (inside : other ∈ function.nodes)
    (same : other.id = node.id) :
    other = node ∧ ∃ old, network.function? id = some old ∧ function = old.push node := by
  rw [adds.result] at member
  obtain ⟨i, access⟩ := List.mem_iff_getElem?.mp member
  obtain ⟨old, before, rfl⟩ := (updated_entry_iff network.functions id.index i _ function).mp access
  have unused : other ∉ old.nodes := by
    intro older
    have below := kept.functions.below old (List.mem_of_getElem? before) other older
    rw [same, adds.number] at below
    exact Nat.lt_irrefl _ below
  by_cases here : id.index = i
  · rw [if_pos here] at inside ⊢
    rcases List.mem_append.mp inside with older | last
    · exact absurd older unused
    · subst i
      exact ⟨List.mem_singleton.mp last, old, before, rfl⟩
  · rw [if_neg here] at inside
    exact absurd inside unused

theorem held_before (network : Network) (kept : network.Represented) (function : Function)
    (member : function ∈ network.functions) (node : Node) (number : node.id = ⟨network.nextNode⟩)
    (producer : Producer)
    (holds : (network.scopeOf function).Holds producer) : node.After network.nextVariable producer := by
  cases producer with
  | var id =>
      obtain ⟨v, stored, rfl⟩ := holds
      exact kept.storage.below v stored
  | node id =>
      obtain ⟨target, inside, rfl⟩ := holds
      rw [Node.After, number]
      exact kept.functions.below function member target inside

section Added

variable (action : Action) (network next : Network) (id : FunctionId) (function : Function) (node : Node)
  (label : String) (adds : network.Adds id node label next) (kept : network.Represented)
  (found : network.function? id = some function)

include adds kept

theorem added_node_continues : network.Continues action next ∧
    function.Continues action network.nextNode (function.push node) := by
  refine ⟨change_continues action network next (.addNode network next id node label adds) kept, ?_⟩
  exact pushed_function_continues action _ function node
    (Nat.le_of_eq (congrArg NodeId.index adds.number.symm))

include found

variable (unerased : action.erased? = none) (operands types : List TensorType)
  (typed : List.Forall₂ (fun edge type => (network.scopeOf function).typeOf edge =
    .ok type) node.inputs operands)
  (known : List.Forall₂ (fun handle type => network.types.get? handle = some type) node.results types)
  (checked : node.operator.check operands types = .ok ())

include typed

omit adds in
theorem added_edges : (∀ edge ∈ node.inputs, (network.scopeOf function).Holds edge.producer) ∧
    List.Forall₂ (network.scopeOf function).Recalls node.inputs operands := by
  have indexed := kept.functions.indexed function (List.mem_of_getElem? found)
  refine (List.forall₂_and_left _ _).mp (typed.imp ?_)
  intro edge type resolved
  exact (typed_edge (network.scopeOf function) network.nextVariable kept.storage indexed edge type
    resolved).symm

theorem added_node_recalls : (∀ edge ∈ node.inputs, node.After next.nextVariable edge.producer) ∧
    List.Forall₂ (next.scopeOf (function.push node)).Recalls node.inputs operands := by
  obtain ⟨continues, grown⟩ := added_node_continues .verify network next id function node label adds kept
  obtain ⟨held, recalled⟩ := added_edges network id function node kept found operands typed
  have earlier : ∀ edge ∈ node.inputs, node.After network.nextVariable edge.producer := fun edge reads =>
    held_before network kept function (List.mem_of_getElem? found) node adds.number edge.producer
      (held edge reads)
  have last : node.id.index ≤ network.nextNode := Nat.le_of_eq (congrArg NodeId.index adds.number)
  constructor
  · exact fun edge reads => after_rises node _ _ _ (earlier edge reads) continues.storage.count
  · refine ((List.forall₂_and_left _ _).mpr ⟨earlier, recalled⟩).imp ?_
    rintro edge type ⟨before, recalls⟩
    exact recalls_continues .verify network next continues function _ grown node last edge
      before type recalls

include known checked

theorem added_node_certified : Certified next (function.push node) node := by
  obtain ⟨continues, _⟩ := added_node_continues .verify network next id function node label adds kept
  obtain ⟨earlier, recalled⟩ :=
    added_node_recalls network next id function node label adds kept found operands typed
  exact ⟨adds.unguarded, earlier, operands, types, recalled, known.imp
    fun handle type => continues.types handle type, checked⟩

include unerased

theorem added_node_joins (limit : Nat) (reached : limit ≤ network.nextNode) :
    Joins limit (fun other => other = node.id) next := by
  obtain ⟨continues, grown⟩ := added_node_continues action network next id function node label adds kept
  obtain ⟨held, _⟩ := added_edges network id function node kept found operands typed
  have place : ∀ after ∈ next.functions, ∀ other ∈ after.nodes, other.id = node.id → other = node ∧
      after = function.push node := by
    intro after member other inside same
    obtain ⟨sameNode, old, before, grew⟩ :=
      added_node_place network next id node label adds kept after member other inside same
    rw [found] at before
    exact ⟨sameNode, Option.some.inj before ▸ grew⟩
  refine ⟨?_, ?_, ?_, ?_⟩
  · rintro _ rfl
    rw [adds.number]
    exact reached
  · rintro _ rfl
    rw [adds.result, adds.number]
    exact Nat.lt_succ_self _
  · intro after member other inside same
    obtain ⟨rfl, rfl⟩ := place after member other inside same
    exact added_node_certified network next id function other label adds kept found operands types
      typed known checked
  · intro after member other inside same edge reads
    obtain ⟨rfl, rfl⟩ := place after member other inside same
    refine (holds_continues action network next continues function _ grown edge.producer
      (held edge reads)).resolve_right ?_
    rw [unerased]
    simp

end Added

theorem create_variables_functions (network : Network) (wanted : List Parameter) :
    (network.createVariables wanted).functions = network.functions := by
  induction wanted generalizing network with
  | nil => rfl
  | cons parameter rest ih => exact ih (network.createVariable parameter).2

theorem create_variables_number (network : Network) (wanted : List Parameter) :
    (network.createVariables wanted).nextNode = network.nextNode := by
  induction wanted generalizing network with
  | nil => rfl
  | cons parameter rest ih => exact ih (network.createVariable parameter).2

-- What a build that succeeds has done: the node of the draft stands in the function, on operands that it
-- was checked with.
structure Network.Builds (network : Network) (id : FunctionId) (function : Function)
    (draft : Draft) (node : Node) (operands : List TensorType) (next : Network) : Prop where
  adds : (network.readyFor draft).Adds id node draft.label next
  operator : node.operator = draft.operator
  inputs : node.inputs = draft.operands.map (Operand.edge network.nextVariable)
  typed : List.Forall₂ (fun edge type => ((network.readyFor draft).scopeOf function).typeOf edge =
    .ok type) node.inputs operands
  known : List.Forall₂ (fun handle type => (network.readyFor draft).types.get? handle =
    some type) node.results draft.results
  checked : node.operator.check operands draft.results = .ok ()

theorem ready_function (network : Network) (draft : Draft) (id : FunctionId) :
    (network.readyFor draft).function? id = network.function? id := by
  rw [Network.function?, Network.readyFor, create_variables_functions]
  rfl

theorem build_done (network next : Network) (id : FunctionId) (function : Function) (draft : Draft)
    (made : NodeId) (built : network.build id function draft = (.ok made, next))
    (kept : network.Represented) :
    ∃ node operands, made = node.id ∧ network.Builds id function draft node operands next := by
  have known := intern_all_found (network.createVariables draft.parameters).types draft.results
    (changes_represented .verify _ _
      (create_variables_changes .verify network draft.parameters) kept).types
  rcases build_cases network id function draft with ⟨fault, failed⟩ | ⟨operands, typed, checked, reached⟩
  · rw [failed] at built
    cases built
  · rw [reached] at built
    rcases add_node_cases (network.readyFor draft) id draft.label draft.operator _ _ with
      ⟨fault, failed⟩ | ⟨node, after, added, sameOperator, sameInputs, sameResults, adds⟩
    · rw [failed] at built
      cases built
    · rw [added] at built
      cases built
      refine ⟨node, operands, rfl, adds, sameOperator, sameInputs, ?_, ?_, ?_⟩
      · rw [sameInputs]
        exact (types_of_iff _ _ _).mp typed
      · rw [sameResults]
        exact known
      · rw [sameOperator]
        exact checked

theorem built_node_joins (action : Action) (network next : Network) (id : FunctionId)
    (function : Function) (draft : Draft) (made : NodeId)
    (built : network.build id function draft = (.ok made, next)) (kept : network.Represented)
    (found : network.function? id = some function) (unerased : action.erased? = none) :
    Joins network.nextNode (fun other => other = made) next := by
  have readyKept := changes_represented action _ _ (ready_changes action network draft) kept
  have sameNumber := create_variables_number network draft.parameters
  have stillFound := (ready_function network draft id).trans found
  obtain ⟨node, operands, rfl, builds⟩ := build_done network next id function draft made built kept
  exact added_node_joins action _ next id function node draft.label builds.adds readyKept
    stillFound unerased
    operands draft.results builds.typed builds.known builds.checked network.nextNode
      (Nat.le_of_eq sameNumber.symm)

theorem added_layer_built (network next : Network) (id : FunctionId) (label : String) (layer : Layer)
    (made : NodeId) (added : network.addLayer id label layer = (.ok made, next)) :
      ∃ function draft, network.function? id = some function ∧
      (network.scopeOf function).draft label layer = .ok draft ∧
        network.build id function draft = (.ok made, next) := by
  unfold Network.addLayer at added
  split at added
  · cases added
  · rename_i function found
    split at added
    · cases added
    · rename_i draft drafted
      exact ⟨function, draft, found, drafted, added⟩

theorem added_layer_joins (action : Action) (network next : Network) (id : FunctionId) (label : String)
    (layer : Layer) (made : NodeId) (added : network.addLayer id label layer = (.ok made, next))
    (kept : network.Represented)
    (unerased : action.erased? = none) : Joins network.nextNode (fun other => other = made) next := by
  obtain ⟨function, draft, found, _, built⟩ := added_layer_built network next id label layer made added
  exact built_node_joins action network next id function draft made built kept found unerased

end TensorGraph
