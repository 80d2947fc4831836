import TensorGraph.Proofs.NameSupply
import TensorGraph.Proofs.Verification

set_option autoImplicit false

namespace TensorGraph

-- The nodes that an action gives another name, or copies from nodes that had one given.
def Action.renames (renamed : List NodeId) : Action → Reply → List NodeId
  | .edit _ (.rename node _), _ => [node]
  | .cloneFunction _ _, .clone _ mapping =>
      (mapping.filter fun pair => renamed.contains pair.1).map Prod.snd
  | _, _ => []

namespace Network

-- The nodes that a run renamed, with their later copies. Requests that fail rename nothing.
def renamed (settings : Settings) (network : Network) (earlier : List NodeId) : List Action → List NodeId
  | [] => earlier
  | action :: rest =>
      match network.perform settings action with
      | (.ok reply, next) => next.renamed settings (action.renames earlier reply ++ earlier) rest
      | (.error _, next) => next.renamed settings earlier rest

-- The names that came of an action: the one it asked for, or those of the variables and the node under
-- new numbers. Copies come under new numbers too, but bring no name of their own.
def produced (network next : Network) : Action → Except GraphFault Reply → List String
  | .freshName _, .ok (.name name) => [name]
  | .edit id _, .ok (.node _) =>
      next.names (fun v => network.nextVariable ≤ v.index) id fun node => network.nextNode ≤ node.index
  | _, _ => next.storage.names fun v => network.nextVariable ≤ v.index

def producedBy (settings : Settings) (network : Network) : List Action → List String
  | [] => []
  | action :: rest =>
      let outcome := network.perform settings action
      network.produced outcome.2 action outcome.1 ++ outcome.2.producedBy settings rest

end Network

theorem unlisted_names (network : Network) (stored : VariableId → Bool) (id : FunctionId) :
    (network.names stored id fun _ => false) = network.storage.names stored := by
  unfold Network.names Network.nodeNames
  cases network.function? id with
  | none => simp
  | some function => simp [Function.names]

theorem clone_keeps_storage (network : Network) (source : FunctionId) (name : String) :
    (network.cloneFunction source name).2.storage = network.storage ∧
      (network.cloneFunction source name).2.nextSuffix = network.nextSuffix := by
  rcases clone_cases network source name with ⟨_, same⟩ | ⟨_, _, same⟩ | ⟨_, _, _, _, _, _, done⟩
  · rw [same]
    exact ⟨rfl, rfl⟩
  · rw [same]
    exact ⟨rfl, rfl⟩
  · rw [done]
    exact ⟨rfl, rfl⟩

section Produced

variable (network : Network) (kept : network.Represented)

include kept

theorem no_new_variables : network.storage.names (fun v => network.nextVariable ≤ v.index) = [] := by
  rw [Variables.names, List.map_eq_nil_iff, List.filter_eq_nil_iff]
  intro v member
  simpa using kept.storage.below v member

theorem no_new_names (id : FunctionId) : network.names (fun v => network.nextVariable ≤ v.index) id
    (fun node => network.nextNode ≤ node.index) = [] := by
  rw [Network.names, no_new_variables network kept, List.nil_append, Network.nodeNames]
  split
  · rename_i function found
    rw [Function.names, List.map_eq_nil_iff, List.filter_eq_nil_iff]
    intro node inside
    simpa using kept.functions.below function (List.mem_of_getElem? found) node inside
  · rfl

variable (settings : Settings) (action : Action)

theorem new_variables_between (uncloned : action.cloned? = none) :
    let next := (network.perform settings action).2
    NamesBetween network.nextSuffix next.nextSuffix
      (next.storage.names fun v => network.nextVariable ≤ v.index) := by
  intro next
  have start : NamesBetween network.nextSuffix network.nextSuffix
      (network.names (fun v => network.nextVariable ≤ v.index) ⟨0⟩ fun _ => false) := by
    rw [unlisted_names, no_new_variables network kept]
    exact no_names_between _ _ (Nat.le_refl _)
  have after := changes_names network _ ⟨0⟩ (fun _ => false) network.nextSuffix start action next
    (perform_changes settings network action) kept uncloned fun _ _ => rfl
  rwa [unlisted_names] at after

theorem new_node_between (id : FunctionId) (change : Edit) (made : NodeId)
    (done : (network.edit id change).1 = .ok (.node made)) :
    let next := (network.edit id change).2
    NamesBetween network.nextSuffix next.nextSuffix
      (next.names (fun v => network.nextVariable ≤ v.index) id fun node => network.nextNode ≤
        node.index) := by
  intro next
  have start : NamesBetween network.nextSuffix network.nextSuffix
      (network.names (fun v => network.nextVariable ≤ v.index) id fun node => network.nextNode ≤
        node.index) := by
    rw [no_new_names network kept id]
    exact no_names_between _ _ (Nat.le_refl _)
  refine changes_names network _ id _ network.nextSuffix start (.edit id change) next
    (perform_edit_changes network id change) kept rfl ?_
  intro node renames
  cases change with
  | rename target name =>
      obtain ⟨_, _, same⟩ := (map_ok_iff _ _ _).mp done
      cases same
  | _ => cases renames

theorem produced_between :
    let outcome := network.perform settings action
    NamesBetween network.nextSuffix outcome.2.nextSuffix
      (network.produced outcome.2 action outcome.1) := by
  intro outcome
  have stored := new_variables_between network kept settings action
  cases action with
  | freshName requested =>
      exact next_name_between _ _ requested [] [] (no_names_between _ _ (Nat.le_refl _))
  | cloneFunction source name =>
      obtain ⟨storage, suffix⟩ := clone_keeps_storage network source name
      have none : NamesBetween network.nextSuffix (network.cloneFunction source name).2.nextSuffix
          ((network.cloneFunction source name).2.storage.names
            fun v => network.nextVariable ≤ v.index) := by
        rw [storage, suffix, no_new_variables network kept]
        exact no_names_between _ _ (Nat.le_refl _)
      exact none
  | edit id change =>
      cases answered : outcome.1 with
      | error fault => exact stored rfl
      | ok reply =>
          cases reply with
          | node made => exact new_node_between network kept id change made answered
          | _ => exact stored rfl
  | _ => exact stored rfl

end Produced

theorem run_produced_between (settings : Settings) (network : Network) (actions : List Action)
    (kept : network.Represented) :
    NamesBetween network.nextSuffix (network.run settings actions).nextSuffix
      (network.producedBy settings actions) := by
  induction actions generalizing network with
  | nil => exact no_names_between _ _ (Nat.le_refl _)
  | cons action rest ih =>
      have nextKept := changes_represented action _ _ (perform_changes settings network action) kept
      exact names_between_append _ _ _ _ _ (produced_between network kept settings action)
        (ih _ nextKept)

theorem renamed_listed (action : Action) (earlier : List NodeId) (reply : Reply) (id : NodeId)
    (renames : action.renamed? = some id) : id ∈ action.renames earlier reply := by
  cases action with
  | edit function change =>
      cases change with
      | rename node name =>
          obtain rfl := Option.some.inj renames
          exact List.mem_singleton.mpr rfl
      | _ => cases renames
  | _ => cases renames

theorem renamed_step (settings : Settings) (network next : Network) (earlier : List NodeId)
    (action : Action) (reply : Reply)
    (performed : network.perform settings action = (.ok reply, next)) (kept : network.Represented)
    (apart : network.NamesApart fun id => !earlier.contains id) :
    next.NamesApart fun id => !(action.renames earlier reply ++ earlier).contains id := by
  refine performed_names_apart network next kept _ _ ?_ apart settings action reply performed ?_ ?_
  · intro id _ unlisted
    simp only [Bool.not_eq_true', List.contains_eq_mem, List.mem_append, decide_eq_false_iff_not]
      at unlisted ⊢
    exact fun listed => unlisted (.inr listed)
  · intro id renames
    simp [renamed_listed action earlier reply id renames]
  · rintro source name id mapping rfl rfl pair entry unlisted
    simp only [Bool.not_eq_true', List.contains_eq_mem, List.mem_append, decide_eq_false_iff_not]
      at unlisted ⊢
    intro listed
    have copied : pair.2 ∈ (mapping.filter fun pair => earlier.contains pair.1).map Prod.snd :=
      List.mem_map_of_mem (List.mem_filter.mpr ⟨entry, by simpa using listed⟩)
    exact unlisted (.inl copied)

theorem run_names_apart (settings : Settings) (network : Network) (earlier : List NodeId)
    (actions : List Action) (kept : network.Represented)
    (apart : network.NamesApart fun id => !earlier.contains id) :
    (network.run settings actions).NamesApart fun id =>
      !(network.renamed settings earlier actions).contains id := by
  induction actions generalizing network earlier with
  | nil => exact apart
  | cons action rest ih =>
      have nextKept := changes_represented action _ _ (perform_changes settings network action) kept
      rw [Network.renamed, Network.run, List.foldl_cons]
      split
      · rename_i reply next performed
        rw [performed] at nextKept ⊢
        exact ih next _ nextKept (renamed_step settings network next earlier action reply
          performed kept apart)
      · rename_i fault next failed
        rw [failed] at nextKept ⊢
        exact ih next _ nextKept (failed_names_apart settings network next action fault
          failed kept _ apart)

theorem distinct_names_verify (settings : Settings) (network : Network) (id : FunctionId)
    (function : Function) (found : network.function? id = some function)
    (distinct : (network.storage.values.map Variable.name ++ function.nodes.map Node.name).Nodup)
    (name current previous : String) :
    (network.verifyFunction settings id).1 ≠
      .error (.violation (.nameConflict name current previous)) := by
  intro reported
  have passed : (network.scopeOf function).checkNames = .ok () :=
    (check_names_iff (network.scopeOf function)).mpr distinct
  rw [Network.verifyFunction, found] at reported
  dsimp only [Network.verifyOne] at reported
  cases outcome : (network.scopeOf function).verify with
  | ok value =>
      rw [outcome] at reported
      cases reported
  | error fault =>
      rw [outcome] at reported
      obtain rfl := GraphFault.violation.inj (Except.error.inj reported)
      rw [conflict_of_names _ name current previous outcome] at passed
      cases passed

-- A clone brings the names of its source once more, so only the names in one function are told apart.
theorem names_never_collide (settings : Settings) (actions : List Action) :
    let network := Network.run settings .empty actions
    (Network.producedBy settings .empty actions).Nodup ∧
      ∀ id function, network.function? id = some function →
        (∀ node ∈ function.nodes, node.id ∉ Network.renamed settings .empty [] actions) →
        (network.storage.values.map Variable.name ++ function.nodes.map Node.name).Nodup ∧
          ∀ name current previous,
            (network.verifyFunction settings id).1 ≠
              .error (.violation (.nameConflict name current previous)) := by
  intro network
  refine ⟨(run_produced_between settings .empty actions empty_represented).apart, ?_⟩
  intro id function found unrenamed
  have start : Network.empty.NamesApart fun id => !([] : List NodeId).contains id :=
    fun _ => no_names_between 0 0 (Nat.le_refl 0)
  have apart := run_names_apart settings .empty [] actions empty_represented start
  have distinct := apart_names_listed network _ apart id function found fun node inside => by
    simpa using unrenamed node inside
  exact ⟨distinct, distinct_names_verify settings network id function found distinct⟩

-- The requested names end in delimiters or look like names that were given; the source of the clone is
-- renamed later.
theorem generated_requests_do_not_collide :
    let actions : List Action := [.freshName "a_", .freshName "a___0", .createFunction "f",
      .createVariable ⟨.plain .float [2], "a_", .external, .none⟩,
      .edit ⟨0⟩ (.addLayer "a__1" (.activation .relu (.ofVariable ⟨0⟩))), .cloneFunction ⟨0⟩ "g",
      .edit ⟨0⟩ (.rename ⟨0⟩ "a___2"), .edit ⟨1⟩ (.addLayer "__" (.activation .tanh (.ofNode ⟨1⟩)))]
    let network := Network.run {} .empty actions
    Network.producedBy {} .empty actions = ["a___0", "a__1", "a___2", "a__3", "__4"] ∧
      Network.renamed {} .empty [] actions = [⟨0⟩] ∧
      (∃ function, network.function? ⟨1⟩ = some function ∧
        network.storage.values.map Variable.name ++ function.nodes.map Node.name =
          ["a___2", "a__3", "__4"]) ∧
      (Network.producedBy {} .empty actions).Nodup ∧
      (∀ name current previous,
        (network.verifyFunction {} ⟨1⟩).1 ≠ .error (.violation (.nameConflict name current previous))) ∧
      ∃ current previous, (network.verifyFunction {} ⟨0⟩).1 =
        .error (.violation (.nameConflict "a___2" current previous)) := by
  intro actions network
  obtain ⟨distinct, verified⟩ := names_never_collide {} actions
  have checked : ∀ function ∈ network.function? ⟨1⟩,
      (∀ node ∈ function.nodes, node.id ∉ Network.renamed {} .empty [] actions) ∧
      network.storage.values.map Variable.name ++ function.nodes.map Node.name =
        ["a___2", "a__3", "__4"] := by decide
  obtain ⟨function, found⟩ : ∃ function, network.function? ⟨1⟩ = some function :=
    Option.isSome_iff_exists.mp (by decide)
  obtain ⟨unrenamed, names⟩ := checked function found
  refine ⟨by
    decide, by decide, ⟨function, found, names⟩, distinct, (verified ⟨1⟩ function found unrenamed).2, ?_⟩
  exact ⟨_, _, rfl⟩

end TensorGraph
