import Mathlib.Data.List.Nodup
import TensorGraph.Proofs.Changes
import TensorGraph.Proofs.Copies
import TensorGraph.Proofs.Interning
import TensorGraph.Proofs.Storage

set_option autoImplicit false

namespace TensorGraph

-- What a variable keeps through every action; its payload is not mentioned.
structure Variable.Becomes (old v : Variable) : Prop where
  id : old.id = v.id
  name : old.name = v.name
  type : old.type = v.type
  visibility : old.visibility = v.visibility
  initializer : old.initializer = v.initializer

-- Variables are stored under their own identifiers and in the order of these, each is found under its
-- own, and each has a type of the pool.
structure VariablesKept (storage : Variables) (types : TypePool) (limit : Nat) : Prop where
  keyed : storage.Keyed
  ordered : storage.values.Pairwise fun a b => a.id.index < b.id.index
  found : ∀ v ∈ storage, storage.get? v.id = some v
  below : ∀ v ∈ storage, v.id.index < limit
  typed : ∀ v ∈ storage, ∃ type, types.get? v.type = some type

structure FunctionsKept (functions : List Function) (types : TypePool) (limit : Nat) : Prop where
  placed : ∀ (i : Nat) (function : Function), functions[i]? = some function → function.id = ⟨i⟩
  titled : (functions.map Function.name).Nodup
  indexed : ∀ function ∈ functions, function.Indexed
  apart : ∀ (i j : Nat) (f g : Function), functions[i]? = some f → functions[j]? = some g →
    ∀ a ∈ f.nodes, ∀ b ∈ g.nodes, a.id = b.id → i = j
  below : ∀ function ∈ functions, ∀ node ∈ function.nodes, node.id.index < limit
  typed : ∀ function ∈ functions, ∀ node ∈ function.nodes, ∀ handle ∈ node.results,
    ∃ type, types.get? handle = some type

structure Network.Represented (network : Network) : Prop where
  types : network.types.Exact
  storage : VariablesKept network.storage network.types network.nextVariable
  functions : FunctionsKept network.functions network.types network.nextNode

-- Numbers that were given out, to something that may be gone.
def Network.Issued (network : Network) : Producer → Prop
  | .var id => id.index < network.nextVariable
  | .node id => id.index < network.nextNode

instance (network : Network) (producer : Producer) : Decidable (network.Issued producer) :=
  match producer with
  | .var id => inferInstanceAs (Decidable (id.index < network.nextVariable))
  | .node id => inferInstanceAs (Decidable (id.index < network.nextNode))

theorem same_variable_becomes (v : Variable) : v.Becomes v := ⟨rfl, rfl, rfl, rfl, rfl⟩

theorem paid_variable_becomes (v : Variable) (id : VariableId) (payload : Option (List UInt8)) :
    v.Becomes (if v.id = id then { v with payload := payload } else v) := by
  split
  · exact ⟨rfl, rfl, rfl, rfl, rfl⟩
  · exact same_variable_becomes v

theorem variable_iff (storage : Variables) (types : TypePool) (limit : Nat)
    (kept : VariablesKept storage types limit)
    (id : VariableId) (v : Variable) : storage.get? id = some v ↔ v ∈ storage ∧ v.id = id := by
  constructor
  · intro found
    rw [storage.looked_up kept.keyed] at found
    have same := List.find?_some found
    exact ⟨List.mem_of_find?_eq_some found, by simpa using same⟩
  · rintro ⟨member, rfl⟩
    exact kept.found v member

theorem variable_ids_apart (storage : Variables) (types : TypePool) (limit : Nat)
    (kept : VariablesKept storage types limit) : (storage.values.map Variable.id).Nodup := by
  refine List.pairwise_map.mpr (kept.ordered.imp ?_)
  intro a b less same
  rw [same] at less
  exact Nat.lt_irrefl _ less

theorem function_ids_apart (functions : List Function) (types : TypePool) (limit : Nat)
    (kept : FunctionsKept functions types limit) : (functions.map Function.id).Nodup := by
  have numbered : functions.map Function.id = (List.range functions.length).map FunctionId.mk := by
    refine List.ext_getElem (by simp) fun i inside _ => ?_
    have below : i < functions.length := by simpa using inside
    simp [kept.placed i _ (List.getElem?_eq_getElem below)]
  rw [numbered]
  exact List.Nodup.map (fun a b same => FunctionId.mk.inj same) List.nodup_range

theorem producers_of_ids_apart (stored : List VariableId) (nodes : List NodeId)
    (storedApart : stored.Nodup)
    (nodesApart : nodes.Nodup) : (stored.map Producer.var ++ nodes.map Producer.node).Nodup := by
  refine List.nodup_append.mpr ⟨storedApart.map fun a b same => Producer.var.inj same,
    nodesApart.map fun a b same => Producer.node.inj same, ?_⟩
  intro producer first other second same
  obtain ⟨id, _, rfl⟩ := List.mem_map.mp first
  obtain ⟨number, _, rfl⟩ := List.mem_map.mp second
  cases same

theorem ordered_variable_first (stored : List Variable)
    (ordered : stored.Pairwise fun a b => a.id.index < b.id.index)
    (v : Variable) (member : v ∈ stored) : (stored.find? fun other => other.id == v.id) = some v := by
  induction stored with
  | nil => simp at member
  | cons first rest ih =>
      obtain ⟨least, restOrdered⟩ := List.pairwise_cons.mp ordered
      rcases List.mem_cons.mp member with same | later
      · subst v
        simp
      · have different : first.id ≠ v.id := fun same => by
          have less := least v later
          rw [same] at less
          exact Nat.lt_irrefl _ less
        rw [List.find?_cons_of_neg (by simpa using different)]
        exact ih restOrdered later

theorem ordered_variables_found (storage : Variables) (keyed : storage.Keyed)
    (ordered : storage.values.Pairwise fun a b => a.id.index < b.id.index) (v : Variable)
    (member : v ∈ storage) :
    storage.get? v.id = some v := by
  rw [storage.looked_up keyed]
  exact ordered_variable_first storage.values ordered v member

theorem variables_kept_grow (storage : Variables) (types larger : TypePool) (limit : Nat)
    (kept : VariablesKept storage types limit) (grows : types.Extends larger) :
      VariablesKept storage larger limit := by
  refine ⟨kept.keyed, kept.ordered, kept.found, kept.below, ?_⟩
  intro v member
  obtain ⟨type, known⟩ := kept.typed v member
  exact ⟨type, grows _ _ known⟩

theorem created_variable_kept (storage : Variables) (types : TypePool) (limit : Nat) (v : Variable)
    (kept : VariablesKept storage types limit) (number : v.id.index = limit)
    (typed : ∃ type, types.get? v.type = some type) : VariablesKept (storage.push v.id v) types
    (limit + 1) := by
  have keyed := storage.pushed_keyed v kept.keyed
  have sorts := fun other => (storage.pushed_iff v.id v other).mp
  have ordered : (storage.push v.id v).values.Pairwise fun a b => a.id.index < b.id.index := by
    rw [Variables.pushed_values]
    refine List.pairwise_append.mpr ⟨kept.ordered, by simp, ?_⟩
    intro older member newest last
    rw [List.mem_singleton.mp last, number]
    exact kept.below older member
  refine ⟨keyed, ordered, ordered_variables_found _ keyed ordered, ?_, ?_⟩
  · intro other member
    rcases sorts other member with older | rfl
    · exact Nat.lt_succ_of_lt (kept.below other older)
    · rw [number]
      exact Nat.lt_succ_self limit
  · intro other member
    rcases sorts other member with older | rfl
    · exact kept.typed other older
    · exact typed

theorem erased_variable_kept (storage : Variables) (types : TypePool) (limit : Nat) (id : VariableId)
    (kept : VariablesKept storage types limit) : VariablesKept (storage.erase id) types limit := by
  have part := storage.erased_sublist id
  have keyed := storage.erased_keyed id kept.keyed
  have ordered := kept.ordered.sublist part
  exact ⟨keyed, ordered, ordered_variables_found _ keyed ordered,
    fun v member => kept.below v (part.subset member),
    fun v member => kept.typed v (part.subset member)⟩

theorem payload_kept (storage : Variables) (types : TypePool) (limit : Nat) (id : VariableId)
    (payload : Option (List UInt8)) (kept : VariablesKept storage types limit) :
    VariablesKept (storage.setPayload id payload) types limit := by
  have becomes := fun v : Variable => paid_variable_becomes v id payload
  have keyed := storage.paid_keyed id payload kept.keyed
  have sorts : ∀ v ∈ storage.setPayload id payload, ∃ old ∈ storage, old.Becomes v := by
    intro v member
    obtain ⟨old, older, rfl⟩ := (storage.paid_iff kept.keyed id payload v).mp member
    exact ⟨old, older, becomes old⟩
  have ordered : (storage.setPayload id payload).values.Pairwise fun a b => a.id.index < b.id.index := by
    rw [storage.paid_values kept.keyed]
    refine List.pairwise_map.mpr (kept.ordered.imp ?_)
    intro a b less
    rw [← (becomes a).id, ← (becomes b).id]
    exact less
  refine ⟨keyed, ordered, ordered_variables_found _ keyed ordered, ?_, ?_⟩
  · intro v member
    obtain ⟨old, older, became⟩ := sorts v member
    rw [← became.id]
    exact kept.below old older
  · intro v member
    obtain ⟨old, older, became⟩ := sorts v member
    rw [← became.type]
    exact kept.typed old older

theorem functions_kept_grow (functions : List Function) (types larger : TypePool) (limit higher : Nat)
    (kept : FunctionsKept functions types limit) (grows : types.Extends larger)
    (rises : limit ≤ higher) :
    FunctionsKept functions larger higher := by
  refine ⟨kept.placed, kept.titled, kept.indexed, kept.apart, ?_, ?_⟩
  · intro function member node inside
    exact Nat.lt_of_lt_of_le (kept.below function member node inside) rises
  · intro function member node inside handle result
    obtain ⟨type, known⟩ := kept.typed function member node inside handle result
    exact ⟨type, grows _ _ known⟩

-- What a new node of a function has to bring: a number that was never given, and results of known types.
structure Node.Fresh (node : Node) (types : TypePool) (limit higher : Nat) : Prop where
  unused : limit ≤ node.id.index
  below : node.id.index < higher
  typed : ∀ handle ∈ node.results, ∃ type, types.get? handle = some type

theorem added_function_kept (functions : List Function) (types : TypePool) (limit higher : Nat)
    (added : Function) (kept : FunctionsKept functions types limit) (rises : limit ≤ higher)
    (number : added.id = ⟨functions.length⟩)
    (free : ∀ function ∈ functions, function.name ≠ added.name) (indexed : added.Indexed)
    (fresh : ∀ node ∈ added.nodes, node.Fresh types limit higher) :
    FunctionsKept (functions ++ [added]) types higher := by
  have places : ∀ (i : Nat) (function : Function), (functions ++ [added])[i]? = some function →
      functions[i]? = some function ∨ (i = functions.length ∧ added = function) :=
    fun i function => (appended_entry_iff functions added function i).mp
  have sorts : ∀ function ∈ functions ++ [added], function ∈ functions ∨ function = added := by
    intro function member
    simpa using member
  have separate : ∀ function ∈ functions, ∀ a ∈ function.nodes, ∀ b ∈ added.nodes, a.id ≠ b.id := by
    intro function member a inside b new same
    have less := kept.below function member a inside
    have more := (fresh b new).unused
    rw [same] at less
    omega
  refine ⟨?_, ?_, ?_, ?_, ?_, ?_⟩
  · intro i function access
    rcases places i function access with older | ⟨rfl, rfl⟩
    · exact kept.placed i function older
    · exact number
  · rw [List.map_append]
    refine List.nodup_append.mpr ⟨kept.titled, by simp, ?_⟩
    intro name listed other last same
    obtain ⟨function, member, rfl⟩ := List.mem_map.mp listed
    exact free function member (same.trans (by simpa using last))
  · intro function member
    rcases sorts function member with older | rfl
    · exact kept.indexed function older
    · exact indexed
  · intro i j f g first second a inF b inG same
    rcases places i f first with olderF | ⟨rfl, rfl⟩ <;> rcases places j g second
      with olderG | ⟨rfl, rfl⟩
    · exact kept.apart i j f g olderF olderG a inF b inG same
    · exact absurd same (separate f (List.mem_of_getElem? olderF) a inF b inG)
    · exact absurd same.symm (separate g (List.mem_of_getElem? olderG) b inG a inF)
    · rfl
  · intro function member node inside
    rcases sorts function member with older | rfl
    · exact Nat.lt_of_lt_of_le (kept.below function older node inside) rises
    · exact (fresh node inside).below
  · intro function member node inside
    rcases sorts function member with older | rfl
    · exact kept.typed function older node inside
    · exact (fresh node inside).typed

theorem updated_entry_iff {α : Type} (items : List α) (target i : Nat) (change : α → α) (item : α) :
    (items.modify target change)[i]? = some item ↔
      ∃ old, items[i]? = some old ∧ item = if target = i then change old else old := by
  rw [List.getElem?_modify]
  cases items[i]? with
  | none => simp
  | some old => simp [eq_comm]

section Updated

variable (functions : List Function) (types : TypePool) (limit higher target : Nat)
  (change : Function → Function)
  (nodes : ∀ function, functions[target]? = some function → ∀ node ∈ (change function).nodes,
    node.Fresh types limit higher ∨ ∃ old ∈ function.nodes, old.id = node.id ∧
      old.results = node.results)

include nodes

-- A node of the updated list is new in the function that was changed, or it comes from a node of the
-- same function.
theorem updated_node_origin (i : Nat) (function : Function)
    (found : (functions.modify target change)[i]? = some function)
    (node : Node) (inside : node ∈ function.nodes) : (target = i ∧ node.Fresh types limit higher) ∨
      ∃ old, functions[i]? = some old ∧ ∃ before ∈ old.nodes, before.id = node.id ∧
        before.results = node.results := by
  obtain ⟨old, before, rfl⟩ := (updated_entry_iff functions target i change function).mp found
  by_cases here : target = i
  · subst i
    rw [if_pos rfl] at inside
    rcases nodes old before node inside with fresh | kept
    · exact .inl ⟨rfl, fresh⟩
    · exact .inr ⟨old, before, kept⟩
  · rw [if_neg here] at inside
    exact .inr ⟨old, before, node, inside, rfl, rfl⟩

variable (kept : FunctionsKept functions types limit)

include kept

theorem updated_nodes_apart (i j : Nat) (f g : Function)
    (first : (functions.modify target change)[i]? = some f)
    (second : (functions.modify target change)[j]? = some g) (a : Node) (inF : a ∈ f.nodes) (b : Node)
    (inG : b ∈ g.nodes)
    (same : a.id = b.id) : i = j := by
  rcases updated_node_origin functions types limit higher target change nodes i f first a inF with
      ⟨atI, freshA⟩ | ⟨oldF, beforeF, oldA, memberA, sameA, _⟩ <;>
    rcases updated_node_origin functions types limit higher target change nodes j g second b inG with
      ⟨atJ, freshB⟩ | ⟨oldG, beforeG, oldB, memberB, sameB, _⟩
  · exact atI.symm.trans atJ
  · have less := kept.below oldG (List.mem_of_getElem? beforeG) oldB memberB
    rw [sameB, ← same] at less
    exact absurd freshA.unused (Nat.not_le_of_gt less)
  · have less := kept.below oldF (List.mem_of_getElem? beforeF) oldA memberA
    rw [sameA, same] at less
    exact absurd freshB.unused (Nat.not_le_of_gt less)
  · exact kept.apart i j oldF oldG beforeF beforeG oldA memberA oldB memberB
      (sameA.trans (same.trans sameB.symm))

theorem updated_function_kept (rises : limit ≤ higher)
    (stays : ∀ function, (change function).id = function.id ∧ (change function).name = function.name)
    (indexed : ∀ function, functions[target]? = some function → (change function).Indexed) :
    FunctionsKept (functions.modify target change) types higher := by
  have access : ∀ (i : Nat) (function : Function), (functions.modify target change)[i]? = some function →
      ∃ old, functions[i]? = some old ∧ function = if target = i then change old else old :=
    fun i function => (updated_entry_iff functions target i change function).mp
  have origin := updated_node_origin functions types limit higher target change nodes
  refine ⟨?_, ?_, ?_, ?_, ?_, ?_⟩
  · intro i function found
    obtain ⟨old, before, rfl⟩ := access i function found
    have number := kept.placed i old before
    split
    · rw [(stays old).1, number]
    · exact number
  · have sameNames : (functions.modify target change).map Function.name =
        functions.map Function.name := by
      apply List.ext_getElem?
      intro i
      rw [List.getElem?_map, List.getElem?_map, List.getElem?_modify]
      split <;> cases functions[i]? <;> simp [stays]
    rw [sameNames]
    exact kept.titled
  · intro function member
    obtain ⟨i, found⟩ := List.mem_iff_getElem?.mp member
    obtain ⟨old, before, rfl⟩ := access i function found
    split
    · subst i
      exact indexed old before
    · exact kept.indexed old (List.mem_of_getElem? before)
  · exact updated_nodes_apart functions types limit higher target change nodes kept
  · intro function member node inside
    obtain ⟨i, found⟩ := List.mem_iff_getElem?.mp member
    rcases origin i function found node inside
      with ⟨_, fresh⟩ | ⟨old, before, earlier, earlierMember, same, _⟩
    · exact fresh.below
    · rw [← same]
      exact Nat.lt_of_lt_of_le (kept.below old (List.mem_of_getElem? before) earlier earlierMember) rises
  · intro function member node inside
    obtain ⟨i, found⟩ := List.mem_iff_getElem?.mp member
    rcases origin i function found node inside
      with ⟨_, fresh⟩ | ⟨old, before, earlier, earlierMember, _, same⟩
    · exact fresh.typed
    · rw [← same]
      exact kept.typed old (List.mem_of_getElem? before) earlier earlierMember

end Updated

theorem pushed_node_kept (functions : List Function) (types : TypePool) (limit target : Nat)
    (node : Node) (kept : FunctionsKept functions types limit) (number : node.id = ⟨limit⟩)
    (typed : ∀ handle ∈ node.results, ∃ type, types.get? handle = some type) :
    FunctionsKept (functions.modify target fun function => function.push node) types (limit + 1) := by
  refine updated_function_kept functions types limit (limit + 1) target _ ?_ kept (Nat.le_succ limit)
    (fun _ => ⟨rfl, rfl⟩) ?_
  · intro function _ other inside
    rcases List.mem_append.mp inside with older | last
    · exact .inr ⟨other, older, rfl, rfl⟩
    · rw [List.mem_singleton.mp last]
      exact .inl ⟨by simp [number], by simp [number], typed⟩
  · intro function found
    refine push_indexed function node (kept.indexed function (List.mem_of_getElem? found)) ?_
    intro older inside
    rw [number]
    exact kept.below function (List.mem_of_getElem? found) older inside

theorem erased_node_kept (functions : List Function) (types : TypePool) (limit target : Nat)
    (id : NodeId) (kept : FunctionsKept functions types limit) :
    FunctionsKept (functions.modify target fun function => function.erase id) types limit := by
  have indexed : ∀ function, functions[target]? = some function → function.Indexed :=
    fun function found => kept.indexed function (List.mem_of_getElem? found)
  refine updated_function_kept functions types limit limit target _ ?_ kept (Nat.le_refl limit) ?_ ?_
  · intro function found node inside
    exact .inr ⟨node, ((erase_nodes function (indexed function found) id node).mp inside).1, rfl, rfl⟩
  · intro function
    unfold Function.erase
    split <;> exact ⟨rfl, rfl⟩
  · intro function found
    exact erase_indexed function (indexed function found) id

theorem edited_node_kept (functions : List Function) (types : TypePool) (limit target : Nat)
    (id : NodeId) (change : Node → Node) (kept : FunctionsKept functions types limit)
    (preserves : Node.Preserves change) :
    FunctionsKept (functions.modify target fun function => function.edit id change) types limit := by
  have indexed : ∀ function, functions[target]? = some function → function.Indexed :=
    fun function found => kept.indexed function (List.mem_of_getElem? found)
  refine updated_function_kept functions types limit limit target _ ?_ kept (Nat.le_refl limit) ?_ ?_
  · intro function found node inside
    obtain ⟨old, member, rfl⟩ := (edit_nodes function (indexed function found) id change node).mp inside
    refine .inr ⟨old, member, ?_⟩
    split
    · exact ⟨(preserves old).1.symm, (preserves old).2.2.symm⟩
    · exact ⟨rfl, rfl⟩
  · intro function
    unfold Function.edit
    split <;> exact ⟨rfl, rfl⟩
  · intro function found
    exact edit_indexed function (indexed function found) id change fun node => (preserves node).1

theorem function_name_free (network : Network) (name : String) :
    network.hasFunction name = false ↔ ∀ function ∈ network.functions, function.name ≠ name := by
  simp [Network.hasFunction, Network.functionNamed?]

theorem copies_ascending (start : Nat) (originals copies : List Node)
    (numbered : copies.map Node.id = (List.range' start originals.length).map NodeId.mk) :
    copies.Pairwise fun a b => a.id.index < b.id.index := by
  have ids : (copies.map Node.id).Pairwise fun a b => a.index < b.index := by
    rw [numbered]
    exact List.pairwise_map.mpr List.pairwise_lt_range'
  exact (List.pairwise_map (f := Node.id)).mp ids

theorem copy_number_bounds (start : Nat) (originals copies : List Node)
    (numbered : copies.map Node.id = (List.range' start originals.length).map NodeId.mk) (copy : Node)
    (member : copy ∈ copies) : start ≤ copy.id.index ∧ copy.id.index < start + originals.length := by
  have listed : copy.id ∈ (List.range' start originals.length).map NodeId.mk := by
    rw [← numbered]
    exact List.mem_map_of_mem member
  obtain ⟨i, inRange, same⟩ := List.mem_map.mp listed
  rw [← same]
  exact List.mem_range'_1.mp inRange

theorem cloned_function_kept (network : Network) (name : String) (source : FunctionId)
    (cloned : Function) (copies : List Node)
    (kept : FunctionsKept network.functions network.types network.nextNode)
    (free : network.hasFunction name = false) (found : network.function? source = some cloned)
    (copied : (NodeMapping.numberedFrom network.nextNode cloned.nodes).nodes network.storage
      network.nextNode cloned.nodes = .ok copies) :
    FunctionsKept (network.functions ++
      [copies.foldl Function.push { id := ⟨network.functions.length⟩, name := name }])
      network.types (network.nextNode + cloned.size) := by
  have twins := copied_nodes_twins _ _ _ _ _ copied
  have numbered := copied_nodes_numbered _ _ _ _ _ copied
  obtain ⟨sameId, sameName, sameNodes⟩ :=
    push_all_parts copies { id := ⟨network.functions.length⟩, name := name }
  refine added_function_kept network.functions network.types network.nextNode _ _ kept
    (Nat.le_add_right _ _) sameId ?_ ?_ ?_
  · rw [sameName]
    exact (function_name_free network name).mp free
  · exact push_all_indexed copies _ (empty_indexed _ _) (by simpa using copies_ascending _ _ _ numbered)
  · rw [sameNodes]
    intro copy member
    obtain ⟨low, high⟩ := copy_number_bounds _ _ _ numbered copy member
    obtain ⟨original, inside, twin⟩ := related_source _ _ _ twins copy member
    refine ⟨low, high, ?_⟩
    rw [twin.results]
    exact kept.typed cloned (List.mem_of_getElem? found) original inside

theorem empty_variables_kept (types : TypePool) (limit : Nat) : VariablesKept {} types limit :=
  ⟨by simp [Variables.Keyed], by simp, by simp, by simp, by simp⟩

theorem empty_represented : Network.empty.Represented :=
  ⟨empty_pool_exact, empty_variables_kept _ _,
    ⟨by simp [Network.empty], by simp [Network.empty], by simp [Network.empty], by simp [Network.empty],
      by simp [Network.empty], by simp [Network.empty]⟩⟩

theorem change_represented (action : Action) (network next : Network)
    (change : Change action network next) (kept : network.Represented) : next.Represented := by
  obtain ⟨types, storage, functions⟩ := kept
  cases change with
  | journal events => exact ⟨types, storage, functions⟩
  | intern type =>
      have grows := intern_extends network.types type
      exact ⟨intern_exact network.types type types, variables_kept_grow _ _ _ _ storage grows,
        functions_kept_grow _ _ _ _ _ functions grows (Nat.le_refl _)⟩
  | freshName => exact ⟨types, storage, functions⟩
  | createFunction name free =>
      exact ⟨types, storage, added_function_kept _ _ _ _ _ functions (Nat.le_refl _) rfl
        ((function_name_free network name).mp free) (empty_indexed _ _) (by simp)⟩
  | createVariable wanted =>
      have grows := intern_extends network.types wanted.type
      exact ⟨intern_exact network.types wanted.type types,
        created_variable_kept _ _ _ (network.createVariable wanted).1
          (variables_kept_grow _ _ _ _ storage grows) rfl
          ⟨wanted.type, intern_found network.types wanted.type types⟩,
        functions_kept_grow _ _ _ _ _ functions grows (Nat.le_refl _)⟩
  | setPayload id payload => exact ⟨types, payload_kept _ _ _ id payload storage, functions⟩
  | eraseVariable id => exact ⟨types, erased_variable_kept _ _ _ id storage, functions⟩
  | numberNodes count =>
      exact ⟨types, storage, functions_kept_grow _ _ _ _ _ functions (pool_extends_refl _)
        (Nat.le_add_right _ _)⟩
  | addNode next id node label adds =>
      rw [adds.result]
      exact ⟨types, storage, pushed_node_kept _ _ _ id.index node functions adds.number adds.known⟩
  | eraseNode id node => exact ⟨types, storage, erased_node_kept _ _ _ id.index node functions⟩
  | editNode id node change edited preserves =>
      exact ⟨types, storage, edited_node_kept _ _ _ id.index node change functions preserves⟩
  | cloneFunction name source cloned copies free found copied =>
      exact ⟨types, storage, cloned_function_kept network name source cloned copies functions
        free found copied⟩

theorem changes_represented (action : Action) (network next : Network)
    (changes : Changes action network next) (kept : network.Represented) : next.Represented := by
  induction changes with
  | refl => exact kept
  | tail _ change ih => exact change_represented action _ _ change ih

theorem run_represented (settings : Settings) (network : Network) (actions : List Action)
    (kept : network.Represented) :
    (network.run settings actions).Represented := by
  induction actions generalizing network with
  | nil => exact kept
  | cons action rest ih =>
      exact ih _ (changes_represented action _ _ (perform_changes settings network action) kept)

theorem every_run_keeps_representation (settings : Settings) (actions : List Action) :
    (Network.run settings .empty actions).Represented :=
  run_represented settings .empty actions empty_represented

theorem variable_handle_iff (scope : Scope) (id : VariableId) (slot : Nat) (handle : TypeHandle) :
    scope.handle? ⟨.var id, slot⟩ = some handle ↔ slot = 0 ∧ ∃ v, scope.storage.get? id = some v ∧
      v.type = handle := by
  by_cases first : slot = 0 <;> simp [Scope.handle?, first]

theorem node_handle_iff (scope : Scope) (id : NodeId) (slot : Nat) (handle : TypeHandle) :
    scope.handle? ⟨.node id, slot⟩ = some handle ↔
      ∃ node, scope.function.node? id = some node ∧ node.results[slot]? = some handle := by
  simp [Scope.handle?, Option.bind_eq_some_iff]

section Resolved

variable (network : Network) (kept : network.Represented) (function : Function)
  (member : function ∈ network.functions) (edge : Edge) (handle : TypeHandle)
  (resolved : (network.scopeOf function).handle? edge = some handle)

include kept member resolved

-- What an edge that resolves leads to, by either kind of producer.
theorem resolved_producer : (∃ v ∈ network.storage, edge.producer = .var v.id ∧ v.type = handle) ∨
    ∃ node ∈ function.nodes, edge.producer = .node node.id ∧ handle ∈ node.results := by
  obtain ⟨producer, slot⟩ := edge
  cases producer with
  | var id =>
      obtain ⟨_, v, found, same⟩ := (variable_handle_iff _ id slot handle).mp resolved
      obtain ⟨stored, rfl⟩ := (variable_iff _ _ _ kept.storage id v).mp found
      exact .inl ⟨v, stored, rfl, same⟩
  | node id =>
      obtain ⟨node, found, held⟩ := (node_handle_iff _ id slot handle).mp resolved
      obtain ⟨inside, rfl⟩ :=
        (node_iff function (kept.functions.indexed function member) id node).mp found
      exact .inr ⟨node, inside, rfl, List.mem_of_getElem? held⟩

theorem resolved_handle_known : ∃ type, network.types.get? handle = some type := by
  rcases resolved_producer network kept function member edge handle resolved with
    ⟨v, stored, _, rfl⟩ | ⟨node, inside, _, listed⟩
  · exact kept.storage.typed v stored
  · exact kept.functions.typed function member node inside handle listed

theorem resolved_issued : network.Issued edge.producer := by
  rcases resolved_producer network kept function member edge handle resolved with
    ⟨v, stored, same, _⟩ | ⟨node, inside, same, _⟩
  · rw [same]
    exact kept.storage.below v stored
  · rw [same]
    exact kept.functions.below function member node inside

end Resolved

end TensorGraph
