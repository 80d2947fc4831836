import TensorGraph.Proofs.Duplication
import TensorGraph.Proofs.NameSupply

set_option autoImplicit false

namespace TensorGraph

theorem unchanged_by_modify {α : Type} (items : List α) (i : Nat) (change : α → α)
    (same : ∀ item, items[i]? = some item → change item = item) : items.modify i change = items := by
  apply List.ext_getElem?
  intro j
  rw [List.getElem?_modify]
  by_cases here : i = j
  · subst j
    cases access : items[i]? with
    | none => rfl
    | some item => simp [same item access]
  · simp [here]

section Unchanged

variable (network next : Network) (id : FunctionId) (node : NodeId)

-- An edit that leaves the node as it is leaves the network as it is.
theorem same_node_unchanged {α : Type} (answer : Node → α) (change : Node → Node) (given : α)
    (edited : network.editNode id node answer change = (.ok given, next))
    (same : ∀ function before, network.function? id = some function → function.node? node = some before →
      answer before = given → change before = before) : next = network := by
  unfold Network.editNode at edited
  split at edited
  · cases edited
  · rename_i function found
    split at edited
    · cases edited
    · rename_i before present
      obtain ⟨answered, rfl⟩ := Prod.mk.inj edited
      have sameNode := same function before found present (Except.ok.inj answered)
      have sameFunction : function.edit node change = function := by
        unfold Function.edit
        split
        · rename_i position stored
          rw [unchanged_by_modify]
          intro other access
          have here : function.nodes[position]? = some before := by
            simpa [Function.node?, stored] using present
          rw [here] at access
          rwa [← Option.some.inj access]
        · rfl
      rw [Network.updateFunction, unchanged_by_modify]
      intro other access
      rw [show network.functions[id.index]? = some function from found] at access
      rw [← Option.some.inj access]
      exact sameFunction

-- An input beyond the last is not there to be rewired.
theorem absent_input_unchanged (i : Nat) (edge : Edge)
    (rewired : network.setInput id node i edge = (.ok none, next)) : next = network := by
  refine same_node_unchanged network next id node _ _ none rewired fun function before _ _ missing => ?_
  exact congrArg (fun inputs => { before with inputs := inputs })
    (List.set_eq_of_length_le (List.getElem?_eq_none_iff.mp missing))

theorem absent_predicate_unchanged (kept : network.Represented)
    (unguarded : ∀ function ∈ network.functions, ∀ before ∈ function.nodes, before.id = node →
      before.predicate = none)
    (cleared : network.setPredicate id node none = (.ok (), next)) : next = network := by
  refine same_node_unchanged network next id node _ _ () cleared
    fun function before found present _ => ?_
  have member := List.mem_of_getElem? found
  obtain ⟨inside, own⟩ :=
    (node_iff function (kept.functions.indexed function member) node before).mp present
  exact congrArg (fun guard => { before with predicate := guard })
    (unguarded function member before inside own).symm

end Unchanged

theorem nothing_joins (limit : Nat) (fresh : NodeId → Prop) (network : Network)
    (none : ∀ id, ¬ fresh id) :
    Joins limit fresh network :=
  ⟨fun id listed => absurd listed (none id), fun id listed => absurd listed (none id),
    fun _ _ node _ listed => absurd listed (none node.id), fun _ _ node _ listed =>
      absurd listed (none node.id)⟩

structure Ledger.Backs (ledger : Ledger) (network : Network) : Prop where
  nodes : Backed (· ∈ ledger.pristine) (· ∈ ledger.stranded) network
  names : network.NamesApart fun id => ledger.pristine.contains id

theorem cloned_nodes_join (network next : Network) (source : FunctionId) (name : String)
    (id : FunctionId) (mapping : NodeMapping)
    (done : network.cloneFunction source name = (.ok (id, mapping), next))
    (kept : network.Represented) (nextKept : next.Represented) (pristine stranded : NodeId → Prop)
    (backed : Backed pristine stranded network) :
    Joins network.nextNode (fun id => ∃ source, (source, id) ∈ mapping ∧ pristine source) next := by
  obtain ⟨cloned, copy, found, made, _, step⟩ := clone_step network kept source name id mapping next done
  have succeeded : ∃ answer, (network.cloneFunction source name).1 = .ok answer :=
    ⟨(id, mapping), by rw [done]⟩
  obtain ⟨_, same, again, held⟩ := (clone_succeeds_iff network kept source name).mp succeeded
  rw [found] at again
  obtain rfl := Option.some.inj again
  exact copies_join network next cloned copy mapping step kept nextKept (List.mem_of_getElem? found)
    (List.mem_of_getElem? made) held pristine stranded backed

theorem gained_nodes_join (settings : Settings) (network next : Network) (ledger : Ledger)
    (action : Action) (reply : Reply)
    (performed : network.perform settings action = (.ok reply, next)) (kept : network.Represented)
    (backs : ledger.Backs network) : Joins network.nextNode (· ∈ ledger.gained action reply) next := by
  unfold Ledger.gained
  split
  · rename_i id label layer made
    obtain ⟨node, added, same⟩ := outcome_map_ok _ _ _ _ performed
    obtain rfl := Reply.node.inj same
    simpa only [List.mem_singleton]
      using added_layer_joins (.edit id (.addLayer label layer)) network next id label layer
      node added kept rfl
  · rename_i source name id mapping
    obtain ⟨answer, done, same⟩ := outcome_map_ok _ _ _ _ performed
    obtain ⟨rfl, rfl⟩ := Reply.clone.inj same
    have changes := perform_changes settings network (.cloneFunction source name)
    rw [performed] at changes
    have joins := cloned_nodes_join network next source name answer.1 answer.2 done kept
      (changes_represented _ _ _ changes kept) _ _ backs.nodes
    simpa [List.mem_map, List.mem_filter] using joins
  · exact nothing_joins _ _ _ fun _ listed => absurd listed List.not_mem_nil

theorem readers_forewarned (action : Action) (ledger : Ledger) (network : Network) (reply : Reply) :
    Forewarned action (· ∈ ledger.pristine) (· ∈
      (ledger.record network action reply).stranded) network := by
  rintro target erased function member node inside _ ⟨edge, reads, same⟩
  have reader : node.id ∈ function.readers target := by
    refine List.mem_map_of_mem (List.mem_filter.mpr ⟨inside, ?_⟩)
    exact List.any_eq_true.mpr ⟨edge, List.mem_append_left _ reads, beq_iff_eq.mpr same⟩
  have listed : node.id ∈ network.readers target := List.mem_flatMap.mpr ⟨function, member, reader⟩
  simp only [Ledger.record, erased]
  exact List.mem_append_left _ listed

theorem stranded_grow (action : Action) (ledger : Ledger) (network : Network)
    (reply : Reply) (id : NodeId)
    (listed : id ∈ ledger.stranded) : id ∈ (ledger.record network action reply).stranded := by
  unfold Ledger.record
  dsimp only
  split
  · exact List.mem_append_right _ listed
  · exact listed

theorem recorded_iff (action : Action) (ledger : Ledger) (network : Network) (reply : Reply)
    (id : NodeId) :
    id ∈ (ledger.record network action reply).pristine ↔
      id ∈ ledger.gained action reply ∨ id ∈ ledger.pristine ∧ action.edits? reply ≠ some id := by
  simp [Ledger.record]

-- A listed node that an action edits is taken off the list, or the action has found nothing to change.
theorem edits_or_unchanged (settings : Settings) (network next : Network) (ledger : Ledger)
    (action : Action) (reply : Reply)
    (performed : network.perform settings action = (.ok reply, next)) (kept : network.Represented)
    (backs : ledger.Backs network) :
    (∀ id, action.edited? = some id → id ∈ ledger.pristine → action.edits? reply = some id) ∨
      next = network := by
  cases action with
  | edit id change =>
      cases change with
      | setInput node i edge =>
          obtain ⟨old, rewired, rfl⟩ := outcome_map_ok _ _ _ _ performed
          cases old with
          | none => exact .inr (absent_input_unchanged network next id node i edge rewired)
          | some old => exact .inl fun _ edited _ => edited
      | setPredicate node predicate =>
          obtain ⟨_, cleared, rfl⟩ := outcome_map_ok _ _ _ _ performed
          cases predicate with
          | some guard => exact .inl fun _ edited _ => edited
          | none =>
              by_cases listed : node ∈ ledger.pristine
              · refine .inr (absent_predicate_unchanged network next id node kept ?_ cleared)
                rintro function member before inside rfl
                exact (backs.nodes.certified function member before inside listed).unguarded
              · refine .inl fun other edited there => absurd ?_ listed
                rwa [Option.some.inj edited]
      | rename node name =>
          obtain ⟨_, _, rfl⟩ := outcome_map_ok _ _ _ _ performed
          exact .inl fun _ edited _ => edited
      | _ => exact .inl nofun
  | _ => exact .inl nofun

-- What is edited leaves the list before the change and what is gained joins it after the change.
theorem recorded_nodes (settings : Settings) (network next : Network) (ledger : Ledger)
    (action : Action) (reply : Reply)
    (performed : network.perform settings action = (.ok reply, next)) (kept : network.Represented)
    (backs : ledger.Backs network) :
    Backed (· ∈ (ledger.record network action reply).pristine)
      (· ∈ (ledger.record network action reply).stranded) next := by
  have shrunk : Backed (fun id => id ∈ ledger.pristine ∧ action.edits? reply ≠ some id)
      (· ∈ (ledger.record network action reply).stranded) network :=
    backed_shrinks _ _ _ _ network backs.nodes (fun id listed => listed.1)
      fun id listed => stranded_grow action ledger network reply id listed
  have after : Backed (fun id => id ∈ ledger.pristine ∧ action.edits? reply ≠ some id)
      (· ∈ (ledger.record network action reply).stranded) next := by
    rcases edits_or_unchanged settings network next ledger action reply performed kept backs
      with delisted | rfl
    · have changes := perform_changes settings network action
      rw [performed] at changes
      refine changes_backed action _ _ network next changes kept shrunk ?_ ?_
      · exact fun id edited listed => listed.2 (delisted id edited listed.1)
      · intro target erased function member node inside listed reads
        exact readers_forewarned action ledger network reply target erased function member node inside
          listed.1 reads
    · exact shrunk
  have joins := gained_nodes_join settings network next ledger action reply performed kept backs
  refine backed_shrinks _ _ _ _ next (backed_joins _ _ _ _ next after joins) ?_ fun _ listed => listed
  exact fun id => (recorded_iff action ledger network reply id).mp

theorem renamed_unrecorded (settings : Settings) (network next : Network) (ledger : Ledger)
    (action : Action) (reply : Reply)
    (performed : network.perform settings action = (.ok reply, next)) (id : NodeId)
    (renames : action.renamed? = some id) :
    id ∉ (ledger.record network action reply).pristine := by
  cases action with
  | edit function change =>
      cases change with
      | rename node name =>
          obtain rfl := Option.some.inj renames
          obtain ⟨_, _, rfl⟩ := outcome_map_ok _ _ _ _ performed
          simp [recorded_iff, Ledger.gained, Action.edits?, Action.edited?, Edit.edited?]
      | _ => cases renames
  | _ => cases renames

theorem recorded_names (settings : Settings) (network next : Network) (ledger : Ledger)
    (action : Action) (reply : Reply)
    (performed : network.perform settings action = (.ok reply, next)) (kept : network.Represented)
    (backs : ledger.Backs network) :
    next.NamesApart fun id => (ledger.record network action reply).pristine.contains id := by
  have joins := gained_nodes_join settings network next ledger action reply performed kept backs
  refine performed_names_apart network next kept _ _ ?_ backs.names settings action reply performed ?_ ?_
  · intro id below listed
    rw [List.contains_iff_mem, recorded_iff] at listed
    rcases listed with gained | ⟨older, _⟩
    · exact absurd below (Nat.not_lt_of_le (joins.unissued id gained))
    · exact List.contains_iff_mem.mpr older
  · intro id renames
    simpa using renamed_unrecorded settings network next ledger action reply performed id renames
  · rintro source name id mapping rfl rfl ⟨original, image⟩ entry listed
    obtain ⟨answer, done, same⟩ := outcome_map_ok _ _ _ _ performed
    obtain ⟨rfl, rfl⟩ := Reply.clone.inj same
    obtain ⟨cloned, copy, _, _, _, step⟩ :=
      clone_step network kept source name answer.1 answer.2 next done
    rw [List.contains_iff_mem, recorded_iff] at listed
    rcases listed with gained | ⟨older, _⟩
    · obtain ⟨⟨other, _⟩, chosen, rfl⟩ := List.mem_map.mp gained
      obtain ⟨again, pristine⟩ := List.mem_filter.mp chosen
      rwa [same_source network next cloned copy answer.2 step original other _ entry again]
    · obtain ⟨node, inside, rfl⟩ :=
        image_node network next cloned copy answer.2 step original image entry
      exact absurd (backs.nodes.numbered node.id older) (Nat.not_lt_of_le (step.unissued node inside).1)

theorem recorded_step (settings : Settings) (network next : Network) (ledger : Ledger)
    (action : Action) (reply : Reply)
    (performed : network.perform settings action = (.ok reply, next)) (kept : network.Represented)
    (backs : ledger.Backs network) : (ledger.record network action reply).Backs next :=
  ⟨recorded_nodes settings network next ledger action reply performed kept backs,
    recorded_names settings network next ledger action reply performed kept backs⟩

theorem failed_step (settings : Settings) (network next : Network) (ledger : Ledger) (action : Action)
    (fault : GraphFault) (failed : network.perform settings action = (.error fault, next))
    (kept : network.Represented)
    (backs : ledger.Backs network) : ledger.Backs next := by
  refine ⟨?_, failed_names_apart settings network next action fault failed kept _ backs.names⟩
  by_cases touches : action.edited? ≠ none ∨ action.erased? ≠ none
  · rw [failed_touch_unchanged settings network next action fault failed touches]
    exact backs.nodes
  · have untouched : action.edited? = none ∧ action.erased? = none := by simpa using touches
    have changes := perform_changes settings network action
    rw [failed] at changes
    exact changes_backed action _ _ network next changes kept backs.nodes (by simp [untouched])
      (by simp [Forewarned, untouched])

theorem run_backed (settings : Settings) (network : Network) (ledger : Ledger) (actions : List Action)
    (kept : network.Represented) (backs : ledger.Backs network) :
    (Ledger.ofRun settings network ledger actions).Backs (network.run settings actions) := by
  induction actions generalizing network ledger with
  | nil => exact backs
  | cons action rest ih =>
      have nextKept := changes_represented action _ _ (perform_changes settings network action) kept
      rw [Ledger.ofRun, Network.run, List.foldl_cons]
      split
      · rename_i reply next performed
        rw [performed] at nextKept ⊢
        exact ih next _ nextKept (recorded_step settings network next ledger action reply
          performed kept backs)
      · rename_i fault next failed
        rw [failed] at nextKept ⊢
        exact ih next _ nextKept (failed_step settings network next ledger action fault
          failed kept backs)

theorem recalled_edge (scope : Scope) (edge : Edge) (type : TensorType)
    (recalls : scope.Recalls edge type)
    (holds : scope.Holds edge.producer) : scope.Leads edge ∧ scope.Carries edge type := by
  obtain ⟨producer, slot⟩ := edge
  cases producer with
  | var id =>
      obtain ⟨first, typed⟩ := recalls
      obtain ⟨v, stored, same⟩ := holds
      exact ⟨⟨first, v, stored, same⟩, v, stored, same, typed v stored same⟩
  | node id =>
      obtain ⟨node, inside, same⟩ := holds
      obtain ⟨handle, held, known⟩ := recalls node inside same
      obtain ⟨below, _⟩ := List.getElem?_eq_some_iff.mp held
      exact ⟨⟨node, inside, same, below⟩, node, inside, same, handle, held, known⟩

theorem certified_fits (network : Network) (function : Function) (node : Node)
    (certified : Certified network function node)
    (closed : ∀ edge ∈ node.inputs, (network.scopeOf function).Holds edge.producer) :
    (∀ edge ∈ node.reads, (network.scopeOf function).Leads edge) ∧
      (network.scopeOf function).Fits node := by
  obtain ⟨operands, types, recalled, known, checked⟩ := certified.typed
  have carried : List.Forall₂ (fun edge type => (network.scopeOf function).Leads edge ∧
      (network.scopeOf function).Carries edge type) node.inputs operands := by
    refine ((List.forall₂_and_left _ _).mpr ⟨closed, recalled⟩).imp ?_
    rintro edge type ⟨holds, recalls⟩
    exact recalled_edge _ edge type recalls holds
  obtain ⟨leads, carries⟩ := (List.forall₂_and_left _ _).mp carried
  obtain ⟨taken, produced⟩ := check_counts node.operator operands types checked
  rw [← recalled.length_eq] at taken
  rw [← known.length_eq] at produced
  refine ⟨?_, taken, produced, operands, types, carries, known, checked⟩
  simpa [Node.reads, certified.unguarded] using leads

theorem backed_function_well_formed (ledger : Ledger) (network : Network) (backs : ledger.Backs network)
    (function : Function) (member : function ∈ network.functions)
    (listed : ∀ node ∈ function.nodes, node.id ∈ ledger.pristine)
    (unstranded : ∀ node ∈ function.nodes, node.id ∉ ledger.stranded) :
      (network.scopeOf function).WellFormed := by
  have certified := fun node inside =>
    backs.nodes.certified function member node inside (listed node inside)
  have fits := fun node inside => certified_fits network function node (certified node inside)
    (backs.nodes.closed function member node inside (listed node inside) (unstranded node inside))
  obtain ⟨i, found⟩ := List.mem_iff_getElem?.mp member
  have names := apart_names_listed network _ backs.names ⟨i⟩ function found fun node inside =>
    List.contains_iff_mem.mpr (listed node inside)
  refine ⟨names, fun node inside => (fits node inside).1, fun node inside => (fits node inside).2,
    NodeId.index, ?_⟩
  intro node inside edge reads other _ leads
  have given : edge ∈ node.inputs := by simpa [Node.reads, (certified node inside).unguarded] using reads
  have earlier := (certified node inside).backward edge given
  rw [leads] at earlier
  exact earlier

theorem empty_backed : ({} : Ledger).Backs .empty :=
  ⟨⟨by simp, by simp [Network.empty], by simp [Network.empty]⟩,
    fun _ => no_names_between 0 0 (Nat.le_refl 0)⟩

-- Only what is left in the end matters: nodes that were erased meanwhile may have been of any kind.
theorem construction_verifies (settings : Settings) (actions : List Action) (id : FunctionId)
    (function : Function) (found : (Network.run settings .empty actions).function? id = some function)
    (pristine : ∀ node ∈ function.nodes, node.id ∈ (Ledger.ofRun settings .empty {} actions).pristine)
    (unstranded : ∀ node ∈ function.nodes, node.id ∉
      (Ledger.ofRun settings .empty {} actions).stranded) :
    ((Network.run settings .empty actions).verifyFunction settings id).1 = .ok () := by
  have kept := run_represented settings .empty actions empty_represented
  have backed := run_backed settings .empty {} actions empty_represented empty_backed
  have member := List.mem_of_getElem? found
  have sound := backed_function_well_formed _ _ backed function member pristine unstranded
  rw [Network.verifyFunction, found]
  refine (verify_one_iff settings _ function).mpr ?_
  exact (verify_scope_iff _ _ kept.storage (kept.functions.indexed function member)).mpr sound

-- The source of the clone is rewired into a circle and loses a node afterwards, the clone is asked to
-- clear a predicate that no node has, and one request fails.
theorem construction_verifies_a_clone :
    let actions : List Action := [.createFunction "main",
      .createVariable ⟨.plain .float [2, 3], "x", .external, .none⟩,
      .edit ⟨0⟩ (.addLayer "act" (.activation .relu (.ofVariable ⟨0⟩))),
      .edit ⟨0⟩ (.addLayer "sum" (.arithmetic .add (.ofNode ⟨0⟩) (.ofVariable ⟨0⟩))),
      .cloneFunction ⟨0⟩ "twin",
      .edit ⟨1⟩ (.addLayer "flat" (.fullyConnected (.ofNode ⟨3⟩) 4)),
      .edit ⟨1⟩ (.setPredicate ⟨2⟩ none),
      .edit ⟨0⟩ (.rename ⟨0⟩ "sum"), .edit ⟨0⟩ (.setInput ⟨0⟩ 0 (.ofNode ⟨1⟩)),
      .edit ⟨0⟩ (.erase (.node ⟨1⟩)),
      .eraseVariable ⟨7⟩]
    let network := Network.run {} .empty actions
    let ledger := Ledger.ofRun {} .empty {} actions
    (∃ function, network.function? ⟨1⟩ = some function ∧ function.nodes.map Node.id = [⟨2⟩, ⟨3⟩, ⟨4⟩] ∧
      (∀ node ∈ function.nodes, node.id ∈ ledger.pristine) ∧
        ∀ node ∈ function.nodes, node.id ∉ ledger.stranded) ∧
    (network.verifyFunction {} ⟨1⟩).1 = .ok () := by
  intro actions network ledger
  have checked : ∀ function ∈ network.function? ⟨1⟩, function.nodes.map Node.id = [⟨2⟩, ⟨3⟩, ⟨4⟩] ∧
      (∀ node ∈ function.nodes, node.id ∈ ledger.pristine) ∧
        ∀ node ∈ function.nodes, node.id ∉ ledger.stranded := by
    decide
  obtain ⟨function, found⟩ : ∃ function, network.function? ⟨1⟩ = some function :=
    Option.isSome_iff_exists.mp (by decide)
  obtain ⟨ids, pristine, unstranded⟩ := checked function found
  exact ⟨⟨function, found, ids, pristine, unstranded⟩,
    construction_verifies {} actions ⟨1⟩ function found pristine unstranded⟩

end TensorGraph
