import TensorGraph.Proofs.Representation

set_option autoImplicit false

namespace TensorGraph

-- What a node keeps through an action.
structure Node.Becomes (action : Action) (old node : Node) : Prop where
  id : old.id = node.id
  operator : old.operator = node.operator
  results : old.results = node.results
  name : action.renamed? = some node.id ∨ old.name = node.name
  whole : action.edited? = some node.id ∨ old = node

-- What a function keeps through a change. Numbers below the limit were given before the change.
structure Function.Continues (action : Action) (limit : Nat) (before after : Function) : Prop where
  id : before.id = after.id
  nodes : ∀ node ∈ after.nodes, node.id.index < limit → ∃ old ∈ before.nodes, old.Becomes action node
  live : ∀ node ∈ before.nodes, (∃ kept ∈ after.nodes, kept.id = node.id) ∨
    action.erased? = some (.node node.id)

def FunctionsContinue (action : Action) (limit : Nat) (before after : List Function) : Prop :=
  ∀ function ∈ after, (∃ old ∈ before, old.Continues action limit function) ∨
    ∀ node ∈ function.nodes, limit ≤ node.id.index

structure VariablesContinue (action : Action) (network next : Network) : Prop where
  count : network.nextVariable ≤ next.nextVariable
  kept : ∀ v ∈ next.storage, v.id.index < network.nextVariable → ∃ old ∈ network.storage, old.Becomes v
  live : ∀ v ∈ network.storage, (∃ kept ∈ next.storage, kept.id = v.id) ∨
    action.erased? = some (.var v.id)

structure Network.Continues (action : Action) (network next : Network) : Prop where
  types : network.types.Extends next.types
  nodeCount : network.nextNode ≤ next.nextNode
  storage : VariablesContinue action network next
  functions : FunctionsContinue action network.nextNode network.functions next.functions

section Functions

variable (action : Action) (limit : Nat)

theorem same_node_becomes (node : Node) : node.Becomes action node := ⟨rfl, rfl, rfl, .inr rfl, .inr rfl⟩

theorem same_function_continues (function : Function) : function.Continues action limit function :=
  ⟨rfl, fun node member _ => ⟨node, member, same_node_becomes action node⟩,
    fun node member => .inl ⟨node, member, rfl⟩⟩

theorem same_functions_continue (functions : List Function) :
    FunctionsContinue action limit functions functions :=
  fun function member => .inl ⟨function, member, same_function_continues action limit function⟩

theorem added_function_continues (functions : List Function) (added : Function)
    (fresh : ∀ node ∈ added.nodes, limit ≤ node.id.index) :
    FunctionsContinue action limit functions (functions ++ [added]) := by
  intro function member
  rcases List.mem_append.mp member with older | last
  · exact same_functions_continue action limit functions function older
  · rw [List.mem_singleton.mp last]
    exact .inr fresh

theorem updated_functions_continue (functions : List Function) (target : Nat)
    (change : Function → Function)
    (continues : ∀ function ∈ functions, function.Continues action limit (change function)) :
    FunctionsContinue action limit functions (functions.modify target change) := by
  intro function member
  obtain ⟨i, access⟩ := List.mem_iff_getElem?.mp member
  obtain ⟨old, before, rfl⟩ := (updated_entry_iff functions target i change function).mp access
  have older := List.mem_of_getElem? before
  refine .inl ⟨old, older, ?_⟩
  split
  · exact continues old older
  · exact same_function_continues action limit old

theorem pushed_function_continues (function : Function) (node : Node) (fresh : limit ≤ node.id.index) :
    function.Continues action limit (function.push node) := by
  refine ⟨rfl, ?_, fun old member => .inl ⟨old, List.mem_append_left _ member, rfl⟩⟩
  intro other member below
  rcases List.mem_append.mp member with older | last
  · exact ⟨other, older, same_node_becomes action other⟩
  · rw [List.mem_singleton.mp last] at below
    exact absurd fresh (Nat.not_le_of_lt below)

theorem erased_function_continues (function : Function) (indexed : function.Indexed) (id : NodeId)
    (erased : action.erased? = some (.node id)) :
    function.Continues action limit (function.erase id) := by
  refine ⟨?_, ?_, ?_⟩
  · unfold Function.erase
    split <;> rfl
  · intro node member _
    exact ⟨node, ((erase_nodes function indexed id node).mp member).1, same_node_becomes action node⟩
  · intro node member
    by_cases same : node.id = id
    · rw [same]
      exact .inr erased
    · exact .inl ⟨node, (erase_nodes function indexed id node).mpr ⟨member, same⟩, rfl⟩

theorem edited_function_continues (function : Function) (indexed : function.Indexed) (id : NodeId)
    (change : Node → Node) (edited : action.edited? = some id) (preserves : Node.Preserves change)
    (named : action.renamed? = some id ∨ ∀ before, (change before).name = before.name) :
    function.Continues action limit (function.edit id change) := by
  refine ⟨?_, ?_, ?_⟩
  · unfold Function.edit
    split <;> rfl
  · intro node member _
    obtain ⟨old, inside, rfl⟩ := (edit_nodes function indexed id change node).mp member
    refine ⟨old, inside, ?_⟩
    by_cases same : old.id = id
    · obtain ⟨sameId, sameOperator, sameResults⟩ := preserves old
      rw [if_pos same]
      refine ⟨sameId.symm, sameOperator.symm, sameResults.symm, ?_, ?_⟩
      · rw [sameId, same]
        exact named.imp_right fun keeps => (keeps old).symm
      · rw [sameId, same]
        exact .inl edited
    · rw [if_neg same]
      exact same_node_becomes action old
  · intro node member
    refine .inl ⟨_, (edit_nodes function indexed id change _).mpr ⟨node, member, rfl⟩, ?_⟩
    split
    · exact (preserves node).1
    · rfl

end Functions

theorem same_variables_continue (action : Action) (network next : Network)
    (same : next.storage = network.storage)
    (count : network.nextVariable ≤ next.nextVariable) : VariablesContinue action network next := by
  refine ⟨count, ?_, ?_⟩
  · rw [same]
    exact fun v member _ => ⟨v, member, same_variable_becomes v⟩
  · rw [same]
    exact fun v member => .inl ⟨v, member, rfl⟩

theorem created_variable_continues (action : Action) (network : Network) (wanted : Parameter) :
    VariablesContinue action network (network.createVariable wanted).2 := by
  refine ⟨Nat.le_succ _, ?_, ?_⟩
  · intro v member below
    rcases (network.storage.pushed_iff _ _ v).mp member with older | rfl
    · exact ⟨v, older, same_variable_becomes v⟩
    · exact absurd below (Nat.lt_irrefl _)
  · intro v member
    exact .inl ⟨v, (network.storage.pushed_iff _ _ v).mpr (.inl member), rfl⟩

theorem payload_continues (action : Action) (network : Network) (keyed : network.storage.Keyed)
    (id : VariableId) (payload : Option (List UInt8)) :
    VariablesContinue action network
      { network with storage := network.storage.setPayload id payload } := by
  have becomes := fun v : Variable => paid_variable_becomes v id payload
  refine ⟨Nat.le_refl _, ?_, ?_⟩
  · intro v member _
    obtain ⟨old, older, rfl⟩ := (network.storage.paid_iff keyed id payload v).mp member
    exact ⟨old, older, becomes old⟩
  · intro v member
    exact .inl ⟨_, (network.storage.paid_iff keyed id payload _).mpr ⟨v, member, rfl⟩,
      (becomes v).id.symm⟩

theorem erased_variable_continues (action : Action) (network : Network) (keyed : network.storage.Keyed)
    (id : VariableId) (erased : action.erased? = some (.var id)) :
    VariablesContinue action network { network with storage := network.storage.erase id } := by
  refine ⟨Nat.le_refl _, ?_, ?_⟩
  · exact fun v member _ => ⟨v, ((network.storage.erased_iff keyed id v).mp member).1,
      same_variable_becomes v⟩
  · intro v member
    by_cases same : v.id = id
    · rw [same]
      exact .inr erased
    · exact .inl ⟨v, (network.storage.erased_iff keyed id v).mpr ⟨member, same⟩, rfl⟩

theorem change_continues (action : Action) (network next : Network) (change : Change action network next)
    (kept : network.Represented) : network.Continues action next := by
  have sameTypes := pool_extends_refl network.types
  have sameFunctions := same_functions_continue action network.nextNode network.functions
  have indexed := kept.functions.indexed
  cases change with
  | journal events =>
      exact ⟨sameTypes, Nat.le_refl _, same_variables_continue _ _ _ rfl (Nat.le_refl _), sameFunctions⟩
  | intern type =>
      exact ⟨intern_extends network.types type, Nat.le_refl _,
        same_variables_continue _ _ _ rfl (Nat.le_refl _), sameFunctions⟩
  | freshName =>
      exact ⟨sameTypes, Nat.le_refl _, same_variables_continue _ _ _ rfl (Nat.le_refl _), sameFunctions⟩
  | createFunction name free =>
      exact ⟨sameTypes, Nat.le_refl _, same_variables_continue _ _ _ rfl (Nat.le_refl _),
        added_function_continues _ _ _ _ (by simp)⟩
  | createVariable wanted =>
      exact ⟨intern_extends network.types wanted.type, Nat.le_refl _,
        created_variable_continues action network wanted, sameFunctions⟩
  | setPayload id payload =>
      exact ⟨sameTypes, Nat.le_refl _, payload_continues action network kept.storage.keyed id payload,
        sameFunctions⟩
  | eraseVariable id erased =>
      exact ⟨sameTypes, Nat.le_refl _,
        erased_variable_continues action network kept.storage.keyed id erased, sameFunctions⟩
  | numberNodes count =>
      exact ⟨sameTypes, Nat.le_add_right _ _, same_variables_continue _ _ _ rfl (Nat.le_refl _),
        sameFunctions⟩
  | addNode next id node label adds =>
      rw [adds.result]
      refine ⟨sameTypes, Nat.le_succ _, same_variables_continue _ _ _ rfl (Nat.le_refl _), ?_⟩
      refine updated_functions_continue _ _ _ _ _ fun function _ => ?_
      exact pushed_function_continues _ _ function node
        (Nat.le_of_eq (congrArg NodeId.index adds.number.symm))
  | eraseNode id node erased =>
      refine ⟨sameTypes, Nat.le_refl _, same_variables_continue _ _ _ rfl (Nat.le_refl _), ?_⟩
      exact updated_functions_continue _ _ _ _ _ fun function member =>
        erased_function_continues _ _ function (indexed function member) node erased
  | editNode id node change edited preserves named =>
      refine ⟨sameTypes, Nat.le_refl _, same_variables_continue _ _ _ rfl (Nat.le_refl _), ?_⟩
      exact updated_functions_continue _ _ _ _ _ fun function member =>
        edited_function_continues _ _ function (indexed function member) node change edited
          preserves named
  | cloneFunction name source cloned copies free found copied =>
      refine ⟨sameTypes, Nat.le_add_right _ _, same_variables_continue _ _ _ rfl (Nat.le_refl _), ?_⟩
      refine added_function_continues _ _ _ _ ?_
      rw [(push_all_parts copies _).2.2]
      intro copy member
      exact (copy_number_bounds _ _ _ (copied_nodes_numbered _ _ _ _ _ copied) copy member).1

end TensorGraph
