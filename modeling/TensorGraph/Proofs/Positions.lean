import TensorGraph.Graph.Pending

set_option autoImplicit false

namespace TensorGraph

-- The table of positions is a map, and it says of each node where the list has it.
structure Function.Indexed (function : Function) : Prop where
  keys : (function.positions.map Prod.fst).Nodup
  entries : ∀ id position,
    (id, position) ∈ function.positions ↔ (function.nodes[position]?).map Node.id = some id
  ascending : function.nodes.Pairwise fun a b => a.id.index < b.id.index

theorem node_ids_apart (function : Function) (indexed : function.Indexed) :
    (function.nodes.map Node.id).Nodup := by
  have ascending : (function.nodes.map Node.id).Pairwise fun a b => a.index < b.index :=
    List.pairwise_map.mpr indexed.ascending
  refine ascending.imp ?_
  intro a b less same
  rw [same] at less
  exact Nat.lt_irrefl _ less

theorem lookup_iff_entry {α β : Type} [BEq α] [LawfulBEq α] (table : List (α × β))
    (keys : (table.map Prod.fst).Nodup)
    (key : α) (value : β) : table.lookup key = some value ↔ (key, value) ∈ table := by
  induction table with
  | nil => simp
  | cons entry rest ih =>
      obtain ⟨first, held⟩ := entry
      obtain ⟨fresh, restKeys⟩ := List.nodup_cons.mp keys
      rw [List.lookup_cons]
      by_cases same : key = first
      · subst key
        have absent : (first, value) ∉ rest := fun later => fresh (List.mem_map.mpr ⟨_, later, rfl⟩)
        simp [absent, eq_comm]
      · simp [beq_false_of_ne same, ih restKeys, same]

theorem position_iff (function : Function) (indexed : function.Indexed) (id : NodeId) (position : Nat) :
    function.positions.lookup id = some position ↔ ∃ node, function.nodes[position]? = some node ∧
      node.id = id := by
  rw [lookup_iff_entry function.positions indexed.keys, indexed.entries]
  simp

theorem unlisted_iff (function : Function) (indexed : function.Indexed) (id : NodeId) :
    function.positions.lookup id = none ↔ ∀ node ∈ function.nodes, node.id ≠ id := by
  rw [Option.eq_none_iff_forall_ne_some]
  constructor
  · intro missing node member same
    obtain ⟨position, access⟩ := List.mem_iff_getElem?.mp member
    exact missing position ((position_iff function indexed id position).mpr ⟨node, access, same⟩)
  · intro absent position stored
    obtain ⟨node, access, same⟩ := (position_iff function indexed id position).mp stored
    exact absent node (List.mem_of_getElem? access) same

theorem same_position (function : Function) (indexed : function.Indexed) (i j : Nat) (a b : Node)
    (first : function.nodes[i]? = some a) (second : function.nodes[j]? = some b)
    (same : a.id = b.id) : i = j := by
  have atFirst := (position_iff function indexed a.id i).mpr ⟨a, first, rfl⟩
  have atSecond := (position_iff function indexed a.id j).mpr ⟨b, second, same.symm⟩
  exact Option.some.inj (atFirst.symm.trans atSecond)

theorem node_iff (function : Function) (indexed : function.Indexed) (id : NodeId) (node : Node) :
    function.node? id = some node ↔ node ∈ function.nodes ∧ node.id = id := by
  constructor
  · intro found
    obtain ⟨position, stored⟩ := Function.lookup_of_node? found
    obtain ⟨held, access, same⟩ := (position_iff function indexed id position).mp stored
    have equal : node = held := by simpa [Function.node?, stored, access] using found.symm
    subst node
    exact ⟨List.mem_of_getElem? access, same⟩
  · rintro ⟨member, same⟩
    obtain ⟨position, access⟩ := List.mem_iff_getElem?.mp member
    have stored := (position_iff function indexed id position).mpr ⟨node, access, same⟩
    simp [Function.node?, stored, access]

theorem empty_indexed (id : FunctionId) (name : String) :
    ({ id := id, name := name } : Function).Indexed := by
  refine ⟨by simp, ?_, by simp⟩
  intro key position
  simp

theorem push_indexed (function : Function) (node : Node) (indexed : function.Indexed)
    (above : ∀ older ∈ function.nodes, older.id.index < node.id.index) :
      (function.push node).Indexed := by
  refine ⟨?_, ?_, ?_⟩
  · refine List.nodup_cons.mpr ⟨?_, indexed.keys⟩
    intro listed
    obtain ⟨⟨key, position⟩, entry, same⟩ := List.mem_map.mp listed
    obtain ⟨older, access, olderId⟩ :=
      Option.map_eq_some_iff.mp ((indexed.entries key position).mp entry)
    have less := above older (List.mem_of_getElem? access)
    rw [olderId, show key = node.id from same] at less
    exact Nat.lt_irrefl _ less
  · intro key position
    rw [Function.push, List.mem_cons, indexed.entries, List.getElem?_append]
    by_cases inside : position < function.nodes.length
    · simp [inside, Nat.ne_of_lt inside]
    · by_cases last : position = function.nodes.length
      · simp [last, eq_comm]
      · have later : position - function.nodes.length ≠ 0 := by omega
        simp [inside, last, later]
  · exact List.pairwise_append.mpr ⟨indexed.ascending, by simp, by simpa using above⟩

theorem push_all_parts (nodes : List Node) (function : Function) :
    (nodes.foldl Function.push function).id = function.id ∧
      (nodes.foldl Function.push function).name = function.name ∧
      (nodes.foldl Function.push function).nodes = function.nodes ++ nodes := by
  induction nodes generalizing function with
  | nil => simp
  | cons node rest ih => simpa [Function.push] using ih (function.push node)

theorem push_all_indexed (nodes : List Node) (function : Function) (indexed : function.Indexed)
    (ascending : (function.nodes ++ nodes).Pairwise fun a b => a.id.index < b.id.index) :
    (nodes.foldl Function.push function).Indexed := by
  induction nodes generalizing function with
  | nil => exact indexed
  | cons node rest ih =>
      refine ih (function.push node) (push_indexed function node indexed ?_)
        (by simpa [Function.push] using ascending)
      intro older member
      exact (List.pairwise_append.mp ascending).2.2 older member node (by simp)

-- All nodes behind the gap move up by one.
theorem erased_position (nodes : List Node) (gap position : Nat) (node : Node) :
    (nodes.eraseIdx gap)[position]? = some node ↔
      ∃ old, old ≠ gap ∧ nodes[old]? = some node ∧ position = Function.closedUp gap old := by
  rw [List.getElem?_eraseIdx]
  constructor
  · intro access
    split at access
    · rename_i before
      exact ⟨position, Nat.ne_of_lt before, access, by simp [Function.closedUp, Nat.lt_asymm before]⟩
    · refine ⟨position + 1, by omega, access, ?_⟩
      rw [Function.closedUp, if_pos (by omega)]
      omega
  · rintro ⟨old, different, access, rfl⟩
    unfold Function.closedUp
    by_cases after : gap < old
    · have restored : old - 1 + 1 = old := by omega
      rw [if_pos after, if_neg (by omega), restored]
      exact access
    · rw [if_neg after, if_pos (by omega)]
      exact access

theorem erase_nodes (function : Function) (indexed : function.Indexed) (id : NodeId) (node : Node) :
    node ∈ (function.erase id).nodes ↔ node ∈ function.nodes ∧ node.id ≠ id := by
  unfold Function.erase
  split
  · rename_i gap stored
    obtain ⟨erased, access, same⟩ := (position_iff function indexed id gap).mp stored
    rw [List.mem_iff_getElem?, List.mem_iff_getElem?]
    constructor
    · rintro ⟨position, found⟩
      obtain ⟨old, different, original, _⟩ := (erased_position function.nodes gap position node).mp found
      refine ⟨⟨old, original⟩, fun clash => different ?_⟩
      exact same_position function indexed old gap node erased original access (clash.trans same.symm)
    · rintro ⟨⟨old, original⟩, other⟩
      refine ⟨_, (erased_position function.nodes gap _ node).mpr ⟨old, ?_, original, rfl⟩⟩
      intro atGap
      rw [atGap, access] at original
      exact other (Option.some.inj original ▸ same)
  · rename_i missing
    have absent := (unlisted_iff function indexed id).mp missing
    exact ⟨fun member => ⟨member, absent node member⟩, And.left⟩

theorem erase_indexed (function : Function) (indexed : function.Indexed) (id : NodeId) :
    (function.erase id).Indexed := by
  unfold Function.erase
  split
  · rename_i gap stored
    obtain ⟨erased, access, same⟩ := (position_iff function indexed id gap).mp stored
    refine ⟨?_, ?_, ?_⟩
    · rw [List.map_map]
      exact indexed.keys.sublist (List.filter_sublist.map _)
    · intro key position
      simp only [List.mem_map, List.mem_filter, Prod.mk.injEq, Prod.exists, bne_iff_ne,
        Option.map_eq_some_iff]
      constructor
      · rintro ⟨other, old, ⟨entry, different⟩, rfl, rfl⟩
        obtain ⟨node, original, nodeId⟩ :=
          Option.map_eq_some_iff.mp ((indexed.entries other old).mp entry)
        refine ⟨node, (erased_position function.nodes gap _ node).mpr ⟨old, ?_, original, rfl⟩, nodeId⟩
        intro atGap
        rw [atGap, access] at original
        exact different (nodeId.symm.trans (Option.some.inj original ▸ same))
      · rintro ⟨node, found, rfl⟩
        obtain ⟨old, different, original, rfl⟩ :=
          (erased_position function.nodes gap position node).mp found
        refine ⟨node.id, old, ⟨(indexed.entries node.id old).mpr (by simp [original]), ?_⟩, rfl, rfl⟩
        intro clash
        exact different (same_position function indexed old gap node erased original access
          (clash.trans same.symm))
    · exact indexed.ascending.sublist (List.eraseIdx_sublist function.nodes gap)
  · exact indexed

theorem modified_position (nodes : List Node) (target i : Nat) (change : Node → Node)
    (keepsId : ∀ node, (change node).id = node.id) :
    ((nodes.modify target change)[i]?).map Node.id = (nodes[i]?).map Node.id := by
  rw [List.getElem?_modify]
  split <;> cases nodes[i]? <;> simp [keepsId]

theorem edit_indexed (function : Function) (indexed : function.Indexed) (id : NodeId)
    (change : Node → Node)
    (keepsId : ∀ node, (change node).id = node.id) : (function.edit id change).Indexed := by
  unfold Function.edit
  split
  · rename_i position stored
    refine ⟨indexed.keys, ?_, ?_⟩
    · intro key place
      rw [modified_position function.nodes position place change keepsId]
      exact indexed.entries key place
    · have sameIds : (function.nodes.modify position change).map Node.id =
          function.nodes.map Node.id := by
        apply List.ext_getElem?
        intro i
        simpa using modified_position function.nodes position i change keepsId
      have ascending : (function.nodes.map Node.id).Pairwise fun a b => a.index < b.index :=
        List.pairwise_map.mpr indexed.ascending
      rw [← sameIds] at ascending
      exact (List.pairwise_map (f := Node.id)).mp ascending
  · exact indexed

theorem edit_nodes (function : Function) (indexed : function.Indexed) (id : NodeId)
    (change : Node → Node) (node : Node) :
    node ∈ (function.edit id change).nodes ↔
      ∃ old ∈ function.nodes, node = if old.id = id then change old else old := by
  unfold Function.edit
  split
  · rename_i position stored
    obtain ⟨edited, access, same⟩ := (position_iff function indexed id position).mp stored
    simp only [List.mem_iff_getElem?, List.getElem?_modify]
    constructor
    · rintro ⟨i, found⟩
      obtain ⟨old, original, rfl⟩ := Option.map_eq_some_iff.mp found
      refine ⟨old, ⟨i, original⟩, ?_⟩
      have places : position = i ↔ old.id = id :=
        ⟨fun at_i => by rw [at_i, original] at access; exact Option.some.inj access ▸ same,
          fun clash => same_position function indexed position i edited old access original
            (same.trans clash.symm)⟩
      by_cases here : position = i
      · simp [here, places.mp here]
      · simp [here, mt places.mpr here]
    · rintro ⟨old, ⟨i, original⟩, rfl⟩
      refine ⟨i, ?_⟩
      rw [original]
      by_cases clash : old.id = id
      · have here := same_position function indexed position i edited old access original
          (same.trans clash.symm)
        simp [here, clash]
      · have elsewhere : position ≠ i := fun at_i => by
          rw [at_i, original] at access
          exact clash (Option.some.inj access ▸ same)
        simp [elsewhere, clash]
  · rename_i missing
    have absent := (unlisted_iff function indexed id).mp missing
    constructor
    · intro member
      exact ⟨node, member, by simp [absent node member]⟩
    · rintro ⟨old, member, rfl⟩
      simpa [absent old member] using member

end TensorGraph
