import TensorGraph.Proofs.Cloning
import TensorGraph.Proofs.Naming

set_option autoImplicit false

namespace TensorGraph

def Variables.names (storage : Variables) (selected : VariableId → Bool) : List String :=
  (storage.values.filter fun v => selected v.id).map Variable.name

def Function.names (function : Function) (selected : NodeId → Bool) : List String :=
  (function.nodes.filter fun node => selected node.id).map Node.name

namespace Network

def nodeNames (network : Network) (id : FunctionId) (selected : NodeId → Bool) : List String :=
  match network.function? id with
  | some function => function.names selected
  | none => []

-- The names of some variables and of some nodes of one function.
def names (network : Network) (stored : VariableId → Bool) (id : FunctionId) (listed : NodeId → Bool) :
    List String :=
  network.storage.names stored ++ network.nodeNames id listed

-- In each function the names of all variables and of the listed nodes are different.
def NamesApart (listed : NodeId → Bool) (network : Network) : Prop :=
  ∀ id, NamesBetween 0 network.nextSuffix (network.names (fun _ => true) id listed)

end Network

section Functions

variable (selected : NodeId → Bool) (function : Function)

theorem pushed_names (node : Node) : (function.push node).names selected =
    function.names selected ++ if selected node.id then [node.name] else [] := by
  unfold Function.names Function.push
  rw [List.filter_append, List.map_append]
  by_cases taken : selected node.id = true
  · simp [taken]
  · simp [taken]

theorem erased_names (id : NodeId) :
    ((function.erase id).names selected).Sublist (function.names selected) := by
  unfold Function.erase
  split
  · exact ((List.eraseIdx_sublist _ _).filter _).map _
  · exact List.Sublist.refl _

theorem modified_names (nodes : List Node) (i : Nat) (change : Node → Node)
    (sameId : ∀ node, (change node).id = node.id)
    (sameName : ∀ node, nodes[i]? = some node → selected node.id = true →
      (change node).name = node.name) :
    ((nodes.modify i change).filter fun node => selected node.id).map Node.name =
      (nodes.filter fun node => selected node.id).map Node.name := by
  induction nodes generalizing i with
  | nil => simp
  | cons node rest ih =>
      cases i with
      | zero =>
          rw [List.modify_zero_cons, List.filter_cons, List.filter_cons, sameId]
          by_cases taken : selected node.id = true
          · simp [taken, sameName node rfl taken]
          · simp [taken]
      | succ i =>
          have later := ih i fun other access => sameName other access
          rw [List.modify_succ_cons, List.filter_cons, List.filter_cons]
          by_cases taken : selected node.id = true
          · simp [taken, later]
          · simp [taken, later]

theorem edited_names (indexed : function.Indexed) (id : NodeId) (change : Node → Node)
    (preserves : Node.Preserves change)
    (named : selected id = false ∨ ∀ before, (change before).name = before.name) :
    (function.edit id change).names selected = function.names selected := by
  unfold Function.edit
  split
  · rename_i position stored
    obtain ⟨held, access, same⟩ := (position_iff function indexed id position).mp stored
    apply modified_names selected function.nodes position change (fun node => (preserves node).1)
    intro node found taken
    rw [access] at found
    obtain rfl := Option.some.inj found
    rcases named with unselected | keeps
    · rw [same, unselected] at taken
      cases taken
    · exact keeps held
  · rfl

end Functions

section Supply

variable (network : Network) (stored : VariableId → Bool) (id : FunctionId) (listed : NodeId → Bool)

theorem node_names_found (function : Function) (found : network.function? id = some function) :
    network.nodeNames id listed = function.names listed := by
  rw [Network.nodeNames, found]

theorem updated_function (target : FunctionId) (change : Function → Function) :
    (network.updateFunction target change).function? id =
      (network.function? id).map fun function =>
        if target.index = id.index then change function else function :=
  List.getElem?_modify ..

theorem updated_names (target : FunctionId) (change : Function → Function) (shrinks : ∀ function,
    network.function? target = some function →
      ((change function).names listed).Sublist (function.names listed)) :
    ((network.updateFunction target change).nodeNames id listed).Sublist
      (network.nodeNames id listed) := by
  unfold Network.nodeNames
  rw [updated_function]
  cases found : network.function? id with
  | none => exact List.Sublist.refl _
  | some function =>
      by_cases here : target.index = id.index
      · simpa [here] using shrinks function ((congrArg (network.functions[·]?) here).trans found)
      · simp [here]

theorem pushed_node_names (target : FunctionId) (node : Node) :
    (network.updateFunction target fun function => function.push node).nodeNames id listed =
      network.nodeNames id listed ∨
      (network.updateFunction target fun function => function.push node).nodeNames id listed =
        network.nodeNames id listed ++ [node.name] := by
  unfold Network.nodeNames
  rw [updated_function]
  cases network.function? id with
  | none => exact .inl rfl
  | some function =>
      by_cases taken : target.index = id.index ∧ listed node.id = true
      · simp [taken, pushed_names]
      · by_cases here : target.index = id.index
        · have skipped : listed node.id ≠ true := fun chosen => taken ⟨here, chosen⟩
          simp [here, skipped, pushed_names]
        · simp [here]

theorem created_function_names (name : String) :
    Network.nodeNames { network with
      functions := network.functions ++
        [{ id := ⟨network.functions.length⟩, name := name }] } id listed =
      network.nodeNames id listed := by
  unfold Network.nodeNames Network.function?
  by_cases inside : id.index < network.functions.length
  · rw [List.getElem?_append_left inside]
  · have beyond : network.functions.length ≤ id.index := Nat.le_of_not_lt inside
    rw [List.getElem?_append_right beyond, List.getElem?_eq_none beyond]
    cases id.index - network.functions.length with
    | zero => rfl
    | succ i => rfl

theorem payload_names (keyed : network.storage.Keyed) (target : VariableId)
    (payload : Option (List UInt8)) :
    (network.storage.setPayload target payload).names stored = network.storage.names stored := by
  rw [Variables.names, Variables.names, network.storage.paid_values keyed, List.filter_map, List.map_map]
  simp only [Function.comp_def, ← (paid_variable_becomes _ target payload).id,
    ← (paid_variable_becomes _ target payload).name]

variable (low : Nat) (between : NamesBetween low network.nextSuffix (network.names stored id listed))

include between

theorem created_variable_names (wanted : Parameter) : NamesBetween low (network.nextSuffix + 1)
    ((network.createVariable wanted).2.names stored id listed) := by
  have grown : (network.createVariable wanted).2.storage.names stored = network.storage.names stored ++
      if stored ⟨network.nextVariable⟩ then [uniqueName network.nextSuffix wanted.name] else [] := by
    by_cases taken : stored ⟨network.nextVariable⟩ = true
    · simp [Variables.names, Network.createVariable, Network.report, taken]
    · simp [Variables.names, Network.createVariable, Network.report, taken]
  rw [Network.names, grown]
  by_cases taken : stored ⟨network.nextVariable⟩ = true
  · rw [if_pos taken, List.append_assoc]
    exact next_name_between low network.nextSuffix wanted.name _ _ between
  · rw [if_neg taken, List.append_nil]
    exact fewer_names_between low _ _ _ _ between (List.Sublist.refl _) (Nat.le_succ _)

theorem added_node_names (next : Network) (target : FunctionId) (node : Node) (label : String)
    (adds : network.Adds target node label next) :
    NamesBetween low next.nextSuffix (next.names stored id listed) := by
  have grown : next.nodeNames id listed = network.nodeNames id listed ∨
      next.nodeNames id listed = network.nodeNames id listed ++ [node.name] := by
    rw [adds.result]
    exact pushed_node_names _ id listed target node
  have storage : next.storage = network.storage := by
    rw [adds.result]
    rfl
  have suffix : next.nextSuffix = network.nextSuffix + 1 := by
    rw [adds.result]
    rfl
  rw [Network.names, storage, suffix]
  rcases grown with same | last
  · rw [same]
    exact fewer_names_between low _ _ _ _ between (List.Sublist.refl _) (Nat.le_succ _)
  · rw [last, ← List.append_assoc, adds.named]
    exact next_name_between low network.nextSuffix label _ [] (by rwa [List.append_nil])

theorem change_names (action : Action) (next : Network) (change : Change action network next)
    (kept : network.Represented) (uncloned : action.cloned? = none)
    (unrenamed : ∀ node, action.renamed? = some node → listed node = false) :
    NamesBetween low next.nextSuffix (next.names stored id listed) := by
  have shrinks : ∀ names : List String, names.Sublist (network.names stored id listed) →
      NamesBetween low network.nextSuffix names :=
    fun names part => fewer_names_between low _ _ _ names between part (Nat.le_refl _)
  cases change with
  | journal events => exact between
  | intern type => exact between
  | freshName => exact fewer_names_between low _ _ _ _ between (List.Sublist.refl _) (Nat.le_succ _)
  | createFunction name free =>
      refine shrinks _ ((List.Sublist.refl _).append ?_)
      rw [created_function_names]
  | createVariable wanted => exact created_variable_names network stored id listed low between wanted
  | setPayload target payload =>
      refine shrinks _ (List.Sublist.append ?_ (List.Sublist.refl _))
      rw [payload_names network stored kept.storage.keyed]
  | eraseVariable target erased =>
      exact shrinks _ ((((network.storage.erased_sublist target).filter _).map _).append
        (List.Sublist.refl _))
  | numberNodes count => exact between
  | addNode next target node label adds =>
      exact added_node_names network stored id listed low between next target node label adds
  | eraseNode target node erased =>
      refine shrinks _ ((List.Sublist.refl _).append (updated_names network id listed target _ ?_))
      exact fun function _ => erased_names listed function node
  | editNode target node change edited preserves named =>
      refine shrinks _ ((List.Sublist.refl _).append (updated_names network id listed target _ ?_))
      intro function found
      have indexed := kept.functions.indexed function (List.mem_of_getElem? found)
      rw [edited_names listed function indexed node change preserves (named.imp_left (unrenamed node))]
  | cloneFunction name source cloned copies free found copied asked =>
      rw [uncloned] at asked
      cases asked

theorem changes_names (action : Action) (next : Network) (changes : Changes action network next)
    (kept : network.Represented) (uncloned : action.cloned? = none)
    (unrenamed : ∀ node, action.renamed? = some node → listed node = false) :
    NamesBetween low next.nextSuffix (next.names stored id listed) := by
  induction changes using Relation.ReflTransGen.head_induction_on with
  | refl => exact between
  | head change _ ih =>
      exact ih (change_names _ stored id listed low between action _ change kept uncloned unrenamed)
        (change_represented action _ _ change kept)

end Supply

theorem apart_names_listed (network : Network) (listed : NodeId → Bool)
    (apart : network.NamesApart listed) (id : FunctionId) (function : Function)
    (found : network.function? id = some function)
    (all : ∀ node ∈ function.nodes, listed node.id = true) :
    (network.storage.values.map Variable.name ++ function.nodes.map Node.name).Nodup := by
  have names : network.names (fun _ => true) id listed =
      network.storage.values.map Variable.name ++ function.nodes.map Node.name := by
    rw [Network.names, node_names_found network id listed function found, Variables.names,
      Function.names, List.filter_true, List.filter_eq_self.mpr all]
  exact names ▸ (apart id).apart

theorem fewer_listed_names (before after : NodeId → Bool) (function : Function)
    (fewer : ∀ node ∈ function.nodes, after node.id = true → before node.id = true) :
    (function.names after).Sublist (function.names before) := by
  have again : (function.nodes.filter fun node => after node.id) =
      (function.nodes.filter fun node => before node.id).filter fun node => after node.id := by
    rw [List.filter_filter]
    refine List.filter_congr fun node inside => ?_
    by_cases taken : after node.id = true
    · simp [taken, fewer node inside taken]
    · simp [taken]
  unfold Function.names
  rw [again]
  exact List.filter_sublist.map _

theorem copied_names (mapping : NodeMapping) (before after : NodeId → Bool)
    (originals copies : List Node)
    (paired : List.Forall₂ (fun original copy => mapping.Twin original copy ∧
      (original.id, copy.id) ∈ mapping) originals copies)
    (images : ∀ pair ∈ mapping, after pair.2 = true → before pair.1 = true) :
    ((copies.filter fun node => after node.id).map Node.name).Sublist
      ((originals.filter fun node => before node.id).map Node.name) := by
  induction paired with
  | nil => exact List.Sublist.refl _
  | @cons original copy _ _ both _ ih =>
      obtain ⟨twin, entry⟩ := both
      rw [List.filter_cons, List.filter_cons]
      by_cases taken : after copy.id = true
      · rw [if_pos taken, if_pos (images _ entry taken), List.map_cons, List.map_cons, twin.name]
        exact ih.cons_cons _
      · rw [if_neg taken]
        split
        · exact ih.cons _
        · exact ih

section Listed

variable (network next : Network) (kept : network.Represented) (before after : NodeId → Bool)
  (older : ∀ id, id.index < network.nextNode → after id = true → before id = true)

include kept older

theorem older_names (id : FunctionId) :
    (network.nodeNames id after).Sublist (network.nodeNames id before) := by
  unfold Network.nodeNames
  cases found : network.function? id with
  | none => exact List.Sublist.refl _
  | some function =>
      refine fewer_listed_names before after function fun node inside => older node.id ?_
      exact kept.functions.below function (List.mem_of_getElem? found) node inside

variable (apart : network.NamesApart before)

include apart

-- A copy brings the names of its source, so it stands under the names that were different there.
theorem cloned_names_apart (source : FunctionId) (cloned copy : Function) (mapping : NodeMapping)
    (step : CloneStep network next cloned copy mapping) (found : network.function? source = some cloned)
    (images : ∀ pair ∈ mapping, after pair.2 = true → before pair.1 = true) : next.NamesApart after := by
  have copied : (copy.names after).Sublist (cloned.names before) :=
    copied_names mapping before after cloned.nodes copy.nodes
      (twins_paired _ mapping cloned.nodes copy.nodes step.twins step.sources step.images) images
  intro id
  have shrinks : ∀ other, (next.nodeNames id after).Sublist (network.nodeNames other before) →
      NamesBetween 0 next.nextSuffix (next.names (fun _ => true) id after) := by
    intro other part
    rw [Network.names, step.storage, step.suffix]
    exact fewer_names_between 0 _ _ _ _ (apart other) ((List.Sublist.refl _).append part) (Nat.le_refl _)
  by_cases inside : id.index < network.functions.length
  · apply shrinks id
    have same : next.function? id = network.function? id := by
      rw [Network.function?, step.functions, List.getElem?_append_left inside]
      rfl
    rw [Network.nodeNames, same]
    exact older_names network kept before after older id
  · apply shrinks source
    have beyond : network.functions.length ≤ id.index := Nat.le_of_not_lt inside
    rw [node_names_found network source before cloned found, Network.nodeNames, Network.function?,
      step.functions, List.getElem?_append_right beyond]
    cases id.index - network.functions.length with
    | zero => exact copied
    | succ i => exact List.nil_sublist _

theorem performed_names_apart (settings : Settings) (action : Action) (reply : Reply)
    (performed : network.perform settings action = (.ok reply, next))
    (unrenamed : ∀ id, action.renamed? = some id → after id = false)
    (images : ∀ source name id mapping, action = .cloneFunction source name → reply = .clone id mapping →
      ∀ pair ∈ mapping, after pair.2 = true → before pair.1 = true) : next.NamesApart after := by
  cases asked : action.cloned? with
  | none =>
      have changes := perform_changes settings network action
      rw [performed] at changes
      intro id
      have start : NamesBetween 0 network.nextSuffix (network.names (fun _ => true) id after) :=
        fewer_names_between 0 _ _ _ _ (apart id)
          ((List.Sublist.refl _).append (older_names network kept before after older id)) (Nat.le_refl _)
      exact changes_names network _ id after 0 start action next changes kept asked unrenamed
  | some source =>
      cases action with
      | cloneFunction source name =>
          obtain ⟨answer, done, rfl⟩ := outcome_map_ok _ _ _ _ performed
          obtain ⟨cloned, copy, found, _, _, step⟩ :=
            clone_step network kept source name answer.1 answer.2 next done
          exact cloned_names_apart network next kept before after older apart source cloned copy
            answer.2 step found (images source name answer.1 answer.2 rfl rfl)
      | _ => cases asked

end Listed

theorem failed_names_apart (settings : Settings) (network next : Network) (action : Action)
    (fault : GraphFault) (failed : network.perform settings action = (.error fault, next))
    (kept : network.Represented)
    (listed : NodeId → Bool) (apart : network.NamesApart listed) : next.NamesApart listed := by
  cases asked : action.cloned? with
  | none =>
      by_cases touches : action.edited? ≠ none
      · rw [failed_touch_unchanged settings network next action fault failed (.inl touches)]
        exact apart
      · have changes := perform_changes settings network action
        rw [failed] at changes
        intro id
        apply changes_names network _ id listed 0 (apart id) action next changes kept asked
        intro node renames
        exact absurd (renamed_edited action node renames) fun edits => touches (by simp [edits])
  | some source =>
      cases action with
      | cloneFunction source name =>
          have unanswered := outcome_map_error _ _ _ _ failed
          rcases clone_cases network source name
            with ⟨_, same⟩ | ⟨_, count, same⟩ | ⟨_, _, _, _, _, _, done⟩
          · rw [same] at unanswered
            obtain rfl := (Prod.mk.inj unanswered).2
            exact apart
          · rw [same] at unanswered
            obtain rfl := (Prod.mk.inj unanswered).2
            exact apart
          · rw [done] at unanswered
            cases unanswered
      | _ => cases asked

end TensorGraph
