import TensorGraph.Proofs.PoolHistory
import TensorGraph.Proofs.Renamings

set_option autoImplicit false

namespace TensorGraph

-- Neither a node nor a variable is read under a number that is still to be given out.
def Network.Settled (network : Network) : Prop :=
  ∀ function ∈ network.functions, ∀ node ∈ function.nodes, ∀ edge ∈ node.reads,
  network.Issued edge.producer

instance (network : Network) : Decidable network.Settled :=
  inferInstanceAs (Decidable (∀ function ∈ network.functions, ∀ node ∈ function.nodes,
    ∀ edge ∈ node.reads,
    network.Issued edge.producer))

-- What a plan brings is numbered from `before` on in one network and from `after` on in the other.
structure Exchange.Shifts (exchange : Exchange) (plan : Plan) (before after : Numbering) : Prop where
  stored : ∀ i < plan.parameters.length, exchange.stored (before.nextVariable + i) =
    after.nextVariable + i
  suffixes : ∀ i < plan.parameters.length + plan.nodeCount, exchange.suffixes (before.nextSuffix + i) =
    after.nextSuffix + i
  nodes : ∀ i < plan.nodeCount, exchange.nodes (before.nextNode + i) = after.nextNode + i

-- The operands of a node that a plan adds are variables of the plan or were there.
def Plan.ReadsIssued (network : Network) : Plan → Prop
  | .complete draft => ∀ operand ∈ draft.operands,
      match operand with
      | .given edge => network.Issued edge.producer
      | .fresh i => i < draft.parameters.length
  | _ => True

theorem planned_operands (network : Network) (kept : network.Represented) (id : FunctionId)
    (label : String) (layer : Layer)
    (plan : Plan) (planned : network.Plans id label layer plan) : plan.ReadsIssued network := by
  cases planned with
  | stray | refused | abandoned => trivial
  | completed function found draft _ types supplied _ =>
      intro operand listed
      obtain ⟨type, _, supplies⟩ := related_source _ _ _ supplied.flip operand listed
      cases operand with
      | given edge =>
          obtain ⟨handle, resolved, _⟩ := supplies
          exact resolved_issued network kept function (List.mem_of_getElem? found) edge handle resolved
      | fresh i =>
          obtain ⟨parameter, access, _⟩ := Option.map_eq_some_iff.mp supplies
          exact (List.getElem?_eq_some_iff.mp access).1

section Exchanged

variable (exchange : Exchange) (base : Network) (keeps : exchange.Keeps base)

include keeps

theorem issued_edge_kept (edge : Edge) (issued : base.Issued edge.producer) :
    exchange.edge edge = edge := by
  obtain ⟨producer, slot⟩ := edge
  cases producer with
  | var id => exact congrArg (fun n => Edge.mk (.var ⟨n⟩) slot) (keeps.stored id.index issued)
  | node id => exact congrArg (fun n => Edge.mk (.node ⟨n⟩) slot) (keeps.nodes id.index issued)

theorem issued_handle_kept (handle : TypeHandle) (type : TensorType)
    (known : base.types.get? handle = some type) :
    exchange.handle handle = handle :=
  congrArg TypeHandle.mk (keeps.types handle.index (List.getElem?_eq_some_iff.mp known).1)

-- A settled node of the base has nothing to rename.
theorem settled_node_renames (kept : base.Represented) (settled : base.Settled) (function : Function)
    (member : function ∈ base.functions) (node : Node) (inside : node ∈ function.nodes) :
      exchange.Renames node node := by
  have same : ∀ edge ∈ node.reads, exchange.edge edge = edge := fun edge reads =>
    issued_edge_kept exchange base keeps edge (settled function member node inside edge reads)
  refine ⟨?_, rfl, ?_, ?_, ?_⟩
  · exact congrArg NodeId.mk (keeps.nodes node.id.index
      (kept.functions.below function member node inside)).symm
  · have unmoved : ∀ edge ∈ node.inputs, exchange.edge edge = id edge := fun edge reads =>
      same edge (List.mem_append_left _ reads)
    exact ((List.map_congr_left unmoved).trans (List.map_id _)).symm
  · cases guarded : node.predicate with
    | none => rfl
    | some edge => exact congrArg some (same edge (List.mem_append_right _ (by simp [guarded]))).symm
  · have unmoved : ∀ handle ∈ node.results, exchange.handle handle = id handle := by
      intro handle listed
      obtain ⟨type, known⟩ := kept.functions.typed function member node inside handle listed
      exact issued_handle_kept exchange base keeps handle type known
    exact ((List.map_congr_left unmoved).trans (List.map_id _)).symm

variable (first second : TypePool) (firstExact : first.Exact) (secondExact : second.Exact)
  (sameTypes : ∀ handle, second.get? (exchange.handle handle) = first.get? handle)

include firstExact secondExact sameTypes

omit keeps in
theorem handle_exchanged (type : TensorType) (listed : type ∈ first.types) :
    second.handleOf type = exchange.handle (first.handleOf type) := by
  obtain ⟨i, access⟩ := List.mem_iff_getElem?.mp listed
  have known : first.get? ⟨i⟩ = some type := access
  rw [handle_of_known first firstExact ⟨i⟩ type known]
  exact handle_of_known second secondExact _ type ((sameTypes ⟨i⟩).trans known)

omit keeps in
theorem variables_shifted (wanted : List Parameter) (number suffix otherNumber otherSuffix : Nat)
    (new : base.nextVariable ≤ number)
    (stored : ∀ i < wanted.length, exchange.stored (number + i) = otherNumber + i)
    (suffixes : ∀ i < wanted.length, exchange.suffixes (suffix + i) = otherSuffix + i)
    (listed : ∀ parameter ∈ wanted, parameter.type ∈ first.types) :
    List.Forall₂ (exchange.MatchesVariable base)
      (variablesMade first number suffix wanted)
        (variablesMade second otherNumber otherSuffix wanted) := by
  induction wanted generalizing number suffix otherNumber otherSuffix with
  | nil => exact .nil
  | cons parameter rest ih =>
      obtain ⟨here, later⟩ := List.forall_mem_cons.mp listed
      have place := stored 0 (Nat.succ_pos _)
      have place' := suffixes 0 (Nat.succ_pos _)
      refine .cons (.made _ _ new ?_ ⟨suffix, parameter.name, rfl, ?_⟩ ?_ rfl rfl rfl) ?_
      · exact congrArg VariableId.mk place.symm
      · exact congrArg (uniqueName · parameter.name) place'.symm
      · exact handle_exchanged exchange first second firstExact secondExact sameTypes parameter.type here
      · refine ih _ _ _ _ (Nat.le_succ_of_le new) (fun i below => ?_) (fun i below => ?_) later
        · have moved := stored (i + 1) (Nat.succ_lt_succ below)
          rw [Nat.add_assoc, Nat.add_comm 1 i, moved]
          omega
        · have moved := suffixes (i + 1) (Nat.succ_lt_succ below)
          rw [Nat.add_assoc, Nat.add_comm 1 i, moved]
          omega

theorem nodes_shifted (plan : Plan) (before after : Numbering)
    (shifts : exchange.Shifts plan before after) (reads : plan.ReadsIssued base)
    (new : base.nextNode ≤ before.nextNode) (listed : ∀ type ∈ plan.types, type ∈ first.types) :
      List.Forall₂ (fun a b => exchange.MatchesNode base a b ∧
        exchange.Renames a b) (plan.nodes first before) (plan.nodes second after) := by
  cases plan with
  | refuse | abandon => exact .nil
  | complete draft =>
      have renames : exchange.Renames (draft.node first before) (draft.node second after) := by
        refine ⟨?_, rfl, ?_, rfl, ?_⟩
        · exact congrArg NodeId.mk (shifts.nodes 0 Nat.one_pos).symm
        · simp only [Draft.node, List.map_map]
          refine List.map_congr_left fun operand member => ?_
          have within := reads operand member
          cases operand with
          | given edge => exact (issued_edge_kept exchange base keeps edge within).symm
          | fresh i => exact congrArg (fun n => Edge.ofVariable ⟨n⟩) (shifts.stored i within).symm
        · simp only [Draft.node, List.map_map]
          refine List.map_congr_left fun type member => ?_
          exact handle_exchanged exchange first second firstExact secondExact sameTypes type
            (listed type (List.mem_append_right _ member))
      refine .cons ⟨.made _ _ new renames ⟨_, draft.label, rfl, ?_⟩, renames⟩ .nil
      exact congrArg (uniqueName · draft.label) (shifts.suffixes _ (Nat.lt_succ_self _)).symm

end Exchanged

theorem grown_function_alike (alike : Node → Node → Prop) (plan : Plan) (first second : TypePool)
    (before after : Numbering) (function : Function) (old : ∀ node ∈ function.nodes, alike node node)
    (made : List.Forall₂ alike (plan.nodes first before) (plan.nodes second after)) :
    Function.Alike alike (plan.grow first before function) (plan.grow second after function) := by
  obtain ⟨firstId, firstName, firstNodes⟩ := push_all_parts (plan.nodes first before) function
  obtain ⟨secondId, secondName, secondNodes⟩ := push_all_parts (plan.nodes second after) function
  refine ⟨secondId.trans firstId.symm, secondName.trans firstName.symm, ?_⟩
  rw [Plan.grow, Plan.grow, firstNodes, secondNodes]
  exact List.rel_append (List.forall₂_same.mpr old) made

section Modified

variable {α : Type} (related : α → α → Prop) (items : List α) (same : ∀ item ∈ items, related item item)

include same

theorem modified_related (i : Nat) (change other : α → α)
    (here : ∀ item ∈ items, related (change item) (other item)) :
    List.Forall₂ related (items.modify i change) (items.modify i other) := by
  induction items generalizing i with
  | nil => simp
  | cons item rest ih =>
      obtain ⟨head, later⟩ := List.forall_mem_cons.mp same
      obtain ⟨changed, changes⟩ := List.forall_mem_cons.mp here
      cases i with
      | zero => exact .cons changed (List.forall₂_same.mpr later)
      | succ i => exact .cons head (ih later i changes)

-- Changes at two places do not meet.
theorem modified_twice_related (i j : Nat) (apart : i ≠ j) (change other late early : α → α)
    (atFirst : ∀ item ∈ items, related (change item) (other item))
    (atSecond : ∀ item ∈ items, related (late item) (early item)) :
    List.Forall₂ related ((items.modify i change).modify j late)
      ((items.modify j early).modify i other) := by
  induction items generalizing i j with
  | nil => simp
  | cons item rest ih =>
      obtain ⟨head, later⟩ := List.forall_mem_cons.mp same
      obtain ⟨first, firsts⟩ := List.forall_mem_cons.mp atFirst
      obtain ⟨second, seconds⟩ := List.forall_mem_cons.mp atSecond
      cases i with
      | zero =>
          cases j with
          | zero => exact absurd rfl apart
          | succ j => exact .cons first (modified_related related rest later j late early seconds)
      | succ i =>
          cases j with
          | zero => exact .cons second (modified_related related rest later i change other firsts)
          | succ j =>
              exact .cons head (ih later i j (fun even => apart (congrArg Nat.succ even)) firsts seconds)

end Modified

theorem parameter_type_planned (plan : Plan) (parameter : Parameter)
    (asked : parameter ∈ plan.parameters) :
    parameter.type ∈ plan.types := by
  cases plan with
  | refuse fault => cases asked
  | abandon draft fault => exact List.mem_append_left _ (List.mem_map_of_mem asked)
  | complete draft => exact List.mem_append_left _ (List.mem_map_of_mem asked)

-- Two plans, each in a function of its own, carried out on one network in both orders.
structure Network.BothOrders (base : Network) (f g : FunctionId) (planA planB : Plan)
    (first both second turned : Network) :
    Prop where
  apart : f ≠ g
  baseKept : base.Represented
  bothKept : both.Represented
  turnedKept : turned.Represented
  gainsA : base.Gains f planA first
  thenB : first.Gains g planB both
  gainsB : base.Gains g planB second
  thenA : second.Gains f planA turned

section Orders

variable {base first both second turned : Network} {f g : FunctionId} {planA planB : Plan}
  (orders : base.BothOrders f g planA planB first both second turned)

include orders

theorem turned_orders : base.BothOrders g f planB planA second turned first both :=
  ⟨orders.apart.symm, orders.baseKept, orders.turnedKept, orders.bothKept, orders.gainsB, orders.thenA,
    orders.gainsA, orders.thenB⟩

theorem type_of_both_iff (type : TensorType) :
    type ∈ both.types.types ↔ (type ∈ base.types.types ∨ type ∈ planA.types) ∨ type ∈ planB.types := by
  have exact : first.types.Exact :=
    orders.gainsA.types ▸ intern_all_exact base.types planA.types orders.baseKept.types
  rw [orders.thenB.types, intern_all_member_iff _ exact, orders.gainsA.types,
    intern_all_member_iff _ orders.baseKept.types]

theorem types_in_both_orders : both.types.types.Perm turned.types.types := by
  refine (List.perm_ext_iff_of_nodup (exact_pool_distinct _ orders.bothKept.types)
    (exact_pool_distinct _ orders.turnedKept.types)).mpr fun type => ?_
  rw [type_of_both_iff orders, type_of_both_iff (turned_orders orders), or_assoc, or_assoc,
    or_comm (a := type ∈ planA.types)]

theorem base_types_in_both : base.types.Extends both.types :=
  pool_extends_trans _ _ _ (gained_types _ _ _ _ orders.gainsA) (gained_types _ _ _ _ orders.thenB)

theorem numbering_of_both : both.numbering = planB.past (planA.past base.numbering) := by
  rw [orders.thenB.numbering, orders.gainsA.numbering]

theorem storage_of_both : both.storage = base.storage.pushAll
    (variablesMade both.types base.nextVariable base.nextSuffix planA.parameters ++
      variablesMade both.types (planA.past base.numbering).nextVariable
      (planA.past base.numbering).nextSuffix
        planB.parameters) := by
  have later := orders.thenB.storage both.types orders.bothKept.types (pool_extends_refl _)
  have earlier :=
    orders.gainsA.storage both.types orders.bothKept.types (gained_types _ _ _ _ orders.thenB)
  rw [earlier, Variables.push_all_append] at later
  rwa [← orders.gainsA.numbering]

theorem functions_of_both : both.functions =
    (base.functions.modify f.index (planA.grow both.types base.numbering)).modify g.index
      (planB.grow both.types (planA.past base.numbering)) := by
  have earlier :=
    orders.gainsA.functions both.types orders.bothKept.types (gained_types _ _ _ _ orders.thenB)
  rw [orders.thenB.functions both.types orders.bothKept.types (pool_extends_refl _), earlier,
    orders.gainsA.numbering]

-- What one plan brought first now comes after what the other brings, and the types stand in another
-- order.
def exchangeOf : Exchange :=
  { stored := blockSwap base.nextVariable planA.parameters.length planB.parameters.length
    suffixes := blockSwap base.nextSuffix (planA.parameters.length + planA.nodeCount)
      (planB.parameters.length + planB.nodeCount)
    nodes := blockSwap base.nextNode planA.nodeCount planB.nodeCount
    types := samePlaces both.types.types turned.types.types (exact_pool_distinct _ orders.bothKept.types)
      (types_in_both_orders orders) }

theorem exchanged_type (handle : TypeHandle) :
    turned.types.get? ((exchangeOf orders).handle handle) = both.types.get? handle :=
  item_at_place _ _ (types_in_both_orders orders) handle.index

theorem exchange_keeps : (exchangeOf orders).Keeps base := by
  refine ⟨below_blocks _ _ _, below_blocks _ _ _, below_blocks _ _ _, fun n below => ?_⟩
  obtain ⟨type, known⟩ : ∃ type, base.types.get? ⟨n⟩ = some type := ⟨_, List.getElem?_eq_getElem below⟩
  have inTurned := base_types_in_both (turned_orders orders) ⟨n⟩ type known
  have moved := (exchanged_type orders ⟨n⟩).trans (base_types_in_both orders ⟨n⟩ type known)
  have there := handle_of_known turned.types orders.turnedKept.types _ type moved
  have stays := handle_of_known turned.types orders.turnedKept.types _ type inTurned
  exact congrArg TypeHandle.index (there.symm.trans stays)

theorem first_plan_shifts :
    (exchangeOf orders).Shifts planA base.numbering (planB.past base.numbering) :=
  ⟨first_block _ _ _, first_block _ _ _, first_block _ _ _⟩

theorem second_plan_shifts :
    (exchangeOf orders).Shifts planB (planA.past base.numbering) base.numbering :=
  ⟨second_block _ _ _, second_block _ _ _, second_block _ _ _⟩

theorem planned_types_in_both : (∀ type ∈ planA.types, type ∈ both.types.types) ∧
    ∀ type ∈ planB.types, type ∈ both.types.types :=
  ⟨fun type asked => (type_of_both_iff orders type).mpr (.inl (.inr asked)),
    fun type asked => (type_of_both_iff orders type).mpr (.inr asked)⟩

theorem exchanged_storage :
    ∃ arranged, List.Forall₂ ((exchangeOf orders).MatchesVariable base) both.storage.values
    arranged ∧ arranged.Perm turned.storage.values := by
  obtain ⟨typesA, typesB⟩ := planned_types_in_both orders
  have shiftsA := first_plan_shifts orders
  have shiftsB := second_plan_shifts orders
  have variablesA :=
    variables_shifted _ base both.types turned.types orders.bothKept.types orders.turnedKept.types
    (exchanged_type orders) planA.parameters base.nextVariable base.nextSuffix _ _
      (Nat.le_refl _) shiftsA.stored
    (fun i below => shiftsA.suffixes i (Nat.lt_add_right _ below))
    fun parameter asked => typesA parameter.type (parameter_type_planned planA parameter asked)
  have variablesB :=
    variables_shifted _ base both.types turned.types orders.bothKept.types orders.turnedKept.types
    (exchanged_type orders) planB.parameters _ _ base.nextVariable base.nextSuffix
      (Nat.le_add_right _ _) shiftsB.stored
    (fun i below => shiftsB.suffixes i (Nat.lt_add_right _ below))
    fun parameter asked => typesB parameter.type (parameter_type_planned planB parameter asked)
  have old : List.Forall₂ ((exchangeOf orders).MatchesVariable base) base.storage.values
      base.storage.values :=
    List.forall₂_same.mpr fun v stored => .kept v (orders.baseKept.storage.below v stored)
  rw [storage_of_both orders, storage_of_both (turned_orders orders), Variables.pushed_all_values,
    Variables.pushed_all_values]
  exact ⟨_, List.rel_append old (List.rel_append variablesA variablesB),
    List.perm_append_comm.append_left _⟩

theorem exchanged_nodes (readsA : planA.ReadsIssued base) (readsB : planB.ReadsIssued base)
    (alike : Node → Node → Prop) (made : ∀ a b, (exchangeOf orders).MatchesNode base a b ∧
      (exchangeOf orders).Renames a b → alike a b)
    (old : ∀ function ∈ base.functions, ∀ node ∈ function.nodes, alike node node) :
    List.Forall₂ (Function.Alike alike) both.functions turned.functions := by
  obtain ⟨typesA, typesB⟩ := planned_types_in_both orders
  have nodesA :=
    nodes_shifted _ base (exchange_keeps orders) both.types turned.types orders.bothKept.types
    orders.turnedKept.types (exchanged_type orders) planA _ _ (first_plan_shifts orders) readsA
      (Nat.le_refl _) typesA
  have nodesB :=
    nodes_shifted _ base (exchange_keeps orders) both.types turned.types orders.bothKept.types
    orders.turnedKept.types (exchanged_type orders) planB _ _ (second_plan_shifts orders) readsB
      (Nat.le_add_right _ _) typesB
  have different : f.index ≠ g.index := fun same => orders.apart (congrArg FunctionId.mk same)
  rw [functions_of_both orders, functions_of_both (turned_orders orders)]
  refine modified_twice_related _ base.functions ?_ _ _ different _ _ _ _ ?_ ?_
  · exact fun function member => ⟨rfl, rfl, List.forall₂_same.mpr (old function member)⟩
  · exact fun function member => grown_function_alike alike planA _ _ _ _ function (old function member)
      (nodesA.imp made)
  · exact fun function member => grown_function_alike alike planB _ _ _ _ function (old function member)
      (nodesB.imp made)

theorem exchange_matches (readsA : planA.ReadsIssued base) (readsB : planB.ReadsIssued base) :
    (exchangeOf orders).Matches base both turned := by
  refine ⟨exchange_keeps orders, ?_, exchanged_type orders, exchanged_storage orders, ?_⟩
  · rw [numbering_of_both orders, numbering_of_both (turned_orders orders)]
    simp only [Plan.past, Numbering.mk.injEq]
    omega
  · refine exchanged_nodes orders readsA readsB _ (fun _ _ => And.left)
      fun function member node inside => ?_
    exact .kept node (orders.baseKept.functions.below function member node inside)

theorem exchange_renames (readsA : planA.ReadsIssued base) (readsB : planB.ReadsIssued base)
    (settled : base.Settled) :
    (exchangeOf orders).RenamesAll both turned :=
  exchanged_nodes orders readsA readsB _ (fun _ _ => And.right)
    (settled_node_renames _ base (exchange_keeps orders) orders.baseKept settled)

theorem answers_exchanged :
    planA.answer second.nextNode = (planA.answer base.nextNode).map (exchangeOf orders).node ∧
    planB.answer base.nextNode = (planB.answer first.nextNode).map (exchangeOf orders).node := by
  have shiftsA := first_plan_shifts orders
  have shiftsB := second_plan_shifts orders
  have numberA : first.nextNode = (planA.past base.numbering).nextNode :=
    congrArg Numbering.nextNode orders.gainsA.numbering
  have numberB : second.nextNode = (planB.past base.numbering).nextNode :=
    congrArg Numbering.nextNode orders.gainsB.numbering
  constructor
  · cases planA with
    | refuse | abandon => rfl
    | complete draft =>
        exact congrArg (fun n => Except.ok (NodeId.mk n))
          (numberB.trans (shiftsA.nodes 0 Nat.one_pos).symm)
  · cases planB with
    | refuse | abandon => rfl
    | complete draft =>
        rw [numberA]
        exact congrArg (fun n => Except.ok (NodeId.mk n)) (shiftsB.nodes 0 Nat.one_pos).symm

end Orders

-- Two layers on functions of their own answer the same in both orders, and the networks they lead to
-- differ only in the numbers that they gave out. A node from before stays as it is, and it names what is
-- new only when it was drawn so by hand.
theorem functions_are_built_independently (settings : Settings) (actions : List Action)
    (f g : FunctionId) (apart : f ≠ g) (labelA labelB : String) (layerA layerB : Layer)
    (issuedA : ∀ edge ∈ layerA.edges, (Network.run settings .empty actions).Issued edge.producer)
    (issuedB : ∀ edge ∈ layerB.edges, (Network.run settings .empty actions).Issued edge.producer) :
    let network := Network.run settings .empty actions
    let first := network.addLayer f labelA layerA
    let both := first.2.addLayer g labelB layerB
    let second := network.addLayer g labelB layerB
    let turned := second.2.addLayer f labelA layerA
    ∃ exchange : Exchange, turned.1 = first.1.map exchange.node ∧ second.1 = both.1.map exchange.node ∧
      exchange.Matches network both.2 turned.2 ∧ both.2.types.types.Perm turned.2.types.types ∧
      (network.Settled → exchange.RenamesAll both.2 turned.2) := by
  intro network first both second turned
  have kept : network.Represented := run_represented settings .empty actions empty_represented
  have added : ∀ (base : Network) id label layer, base.Represented →
      (base.addLayer id label layer).2.Represented :=
    fun base id label layer => changes_represented .verify _ _
      (add_layer_changes .verify base id label layer)
  have firstKept := added network f labelA layerA kept
  have secondKept := added network g labelB layerB kept
  obtain ⟨planA, plannedA⟩ := layer_planned network f labelA layerA
  obtain ⟨planB, plannedB⟩ := layer_planned network g labelB layerB
  obtain ⟨answerA, gainsA⟩ := planned_layer network kept f labelA layerA planA plannedA
  obtain ⟨answerB, gainsB⟩ := planned_layer network kept g labelB layerB planB plannedB
  have laterB := plan_elsewhere network first.2 kept firstKept f planA gainsA g apart labelB layerB
    issuedB planB plannedB
  have laterA := plan_elsewhere network second.2 kept secondKept g planB gainsB f apart.symm labelA
    layerA issuedA planA plannedA
  obtain ⟨answerThen, thenB⟩ := planned_layer first.2 firstKept g labelB layerB planB laterB
  obtain ⟨answerTurned, thenA⟩ := planned_layer second.2 secondKept f labelA layerA planA laterA
  have orders : network.BothOrders f g planA planB first.2 both.2 second.2 turned.2 :=
    ⟨apart, kept, added _ _ _ _ firstKept, added _ _ _ _ secondKept, gainsA, thenB, gainsB, thenA⟩
  have readsA := planned_operands network kept f labelA layerA planA plannedA
  have readsB := planned_operands network kept g labelB layerB planB plannedB
  obtain ⟨turnedA, turnedB⟩ := answers_exchanged orders
  refine ⟨exchangeOf orders, ?_, ?_, exchange_matches orders readsA readsB, types_in_both_orders orders,
    exchange_renames orders readsA readsB⟩
  · exact answerTurned.trans (turnedA.trans (congrArg _ answerA.symm))
  · exact answerB.trans (turnedB.trans (congrArg _ answerThen.symm))

-- Both layers bring parameters of their own. The one on `f` comes first or second.
theorem normalization_beside_a_product :
    let network := Network.run {} .empty [.createFunction "f", .createFunction "g",
      .createVariable ⟨.plain .float [2, 3], "x", .external, .none⟩,
      .edit ⟨0⟩ (.addLayer "r" (.activation .relu (.ofVariable ⟨0⟩)))]
    let layerA := Layer.batchNormalization (.ofNode ⟨0⟩) 1 (.ofNat 0) (.ofNat 1)
    let layerB := Layer.fullyConnected (.ofVariable ⟨0⟩) 4
    let both := (network.addLayer ⟨0⟩ "n" layerA).2.addLayer ⟨1⟩ "p" layerB
    let turned := (network.addLayer ⟨1⟩ "p" layerB).2.addLayer ⟨0⟩ "n" layerA
    network.Settled ∧ both.1 = .ok ⟨2⟩ ∧ turned.1 = .ok ⟨2⟩ ∧ both.2.types ≠ turned.2.types ∧
      ∃ exchange : Exchange, exchange.nodes 0 = 0 ∧ exchange.nodes 2 = 1 ∧
        exchange.Matches network both.2 turned.2 ∧
        exchange.RenamesAll both.2 turned.2 := by
  intro network layerA layerB both turned
  have settled : network.Settled := by decide +kernel
  have issuedA : ∀ edge ∈ layerA.edges, network.Issued edge.producer := by decide +kernel
  have issuedB : ∀ edge ∈ layerB.edges, network.Issued edge.producer := by decide +kernel
  have last : both.1 = .ok ⟨2⟩ := by decide +kernel
  have alone : (network.addLayer ⟨1⟩ "p" layerB).1 = .ok ⟨1⟩ := by decide +kernel
  obtain ⟨exchange, _, answered, matched, _, renamed⟩ :=
    functions_are_built_independently {} _ ⟨0⟩ ⟨1⟩ (by decide) "n" "p" layerA layerB issuedA issuedB
  have moved : (network.addLayer ⟨1⟩ "p" layerB).1 = both.1.map exchange.node := answered
  rw [alone, last] at moved
  have number : exchange.nodes 2 = 1 := (congrArg NodeId.index (Except.ok.inj moved)).symm
  have first : exchange.nodes 0 = 0 := matched.keeps.nodes 0 (by decide +kernel)
  exact ⟨settled,
    last, by decide +kernel, by decide +kernel, exchange, first, number, matched, renamed settled⟩

-- The node of `h` reads number 2 before it is given out. The variable that comes to have it depends on
-- the order.
theorem edge_drawn_ahead_takes_sides :
    let network := Network.run {} .empty [.createFunction "f", .createFunction "g", .createFunction "h",
      .createVariable ⟨.plain .float [2, 3], "x", .external, .none⟩,
      .createVariable ⟨.plain .float [1], "y", .external, .none⟩,
      .edit ⟨2⟩ (.addLayer "r" (.activation .relu (.ofVariable ⟨0⟩))),
      .edit ⟨2⟩ (.setInput ⟨0⟩ 0 (.ofVariable ⟨2⟩))]
    let layerA := Layer.save (.ofVariable ⟨0⟩)
    let layerB := Layer.save (.ofVariable ⟨1⟩)
    let both := ((network.addLayer ⟨0⟩ "a" layerA).2.addLayer ⟨1⟩ "b" layerB).2
    let turned := ((network.addLayer ⟨1⟩ "b" layerB).2.addLayer ⟨0⟩ "a" layerA).2
    (∀ edge ∈ layerA.edges ++ layerB.edges, network.Issued edge.producer) ∧
      (both.verifyFunction {} ⟨2⟩).1 = .ok () ∧ (turned.verifyFunction {} ⟨2⟩).1 ≠ .ok () ∧
      ¬ ∃ exchange : Exchange, exchange.Matches network both turned ∧
      exchange.RenamesAll both turned := by
  intro network layerA layerB both turned
  refine ⟨by decide +kernel, by decide +kernel, by decide +kernel, ?_⟩
  rintro ⟨exchange, matched, renamed⟩
  let reader : Node := ⟨⟨0⟩, "r__2", .activation .relu, [.ofVariable ⟨2⟩], [⟨0⟩], none⟩
  let home : Function := { id := ⟨2⟩, name := "h", nodes := [reader], positions := [(⟨0⟩, 0)] }
  have fixed : exchange.stored 2 = 2 := by
    have first : both.functions[2]? = some home := by decide +kernel
    have second : turned.functions[2]? = some home := by decide +kernel
    obtain ⟨other, found, alike⟩ := related_at _ _ _ renamed 2 home second
    obtain rfl := Option.some.inj (first.symm.trans found)
    have inputs := (List.forall₂_cons.mp alike.nodes).1.inputs
    simpa [reader, Exchange.edge, Exchange.producer, Edge.ofVariable, Edge.ofProducer] using inputs.symm
  have made : ∃ v ∈ both.storage, v.id = ⟨2⟩ ∧ v.type = ⟨0⟩ := by decide +kernel
  have absent : ∀ w ∈ turned.storage, w.id = ⟨2⟩ → w.type ≠ ⟨0⟩ := by decide +kernel
  have next : network.nextVariable = 2 := by decide +kernel
  have known : 0 < network.types.size := by decide +kernel
  obtain ⟨v, stored, number, type⟩ := made
  obtain ⟨arranged, pairs, moved⟩ := matched.storage
  obtain ⟨w, listed, pair⟩ := related_source _ _ _ pairs.flip v stored
  cases pair with
  | kept old =>
      rw [number, next] at old
      exact Nat.lt_irrefl _ old
  | made _ _ sameNumber _ sameType =>
      refine absent w (moved.mem_iff.mp listed) ?_ ?_
      · rw [sameNumber, number, fixed]
      · rw [sameType, type, Exchange.handle, matched.keeps.types 0 known]

end TensorGraph
