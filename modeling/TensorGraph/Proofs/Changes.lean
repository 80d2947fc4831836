import Mathlib.Logic.Relation
import TensorGraph.Network.Action
import TensorGraph.Proofs.Success

set_option autoImplicit false

namespace TensorGraph

def Edit.edited? : Edit → Option NodeId
  | .rename node _ | .setInput node _ _ | .setPredicate node _ => some node
  | _ => none

def Action.edited? : Action → Option NodeId
  | .edit _ change => change.edited?
  | _ => none

def Edit.renamed? : Edit → Option NodeId
  | .rename node _ => some node
  | _ => none

def Action.renamed? : Action → Option NodeId
  | .edit _ change => change.renamed?
  | _ => none

def Action.cloned? : Action → Option FunctionId
  | .cloneFunction source _ => some source
  | _ => none

def Action.erased? : Action → Option Producer
  | .eraseVariable id => some (.var id)
  | .edit _ (.erase target) => some target
  | _ => none

theorem renamed_edited (action : Action) (id : NodeId) (renames : action.renamed? = some id) :
    action.edited? = some id := by
  cases action with
  | edit function change =>
      cases change with
      | rename node name => exact renames
      | _ => cases renames
  | _ => cases renames

def Node.Preserves (change : Node → Node) : Prop :=
  ∀ node, (change node).id = node.id ∧ (change node).operator = node.operator ∧
    (change node).results = node.results

-- How a new node comes to a function: under the next number and the next name, with edges that lead
-- somewhere.
structure Network.Adds (network : Network) (id : FunctionId) (node : Node) (label : String)
    (next : Network) : Prop where
  number : node.id = ⟨network.nextNode⟩
  named : node.name = uniqueName network.nextSuffix label
  unguarded : node.predicate = none
  resolved : ∃ function, network.function? id = some function ∧
    ∀ edge ∈ node.inputs, ∃ handle, (network.scopeOf function).handle? edge = some handle
  known : ∀ handle ∈ node.results, ∃ type, network.types.get? handle = some type
  result : next = Network.updateFunction
    { network with nextNode := network.nextNode + 1, nextSuffix := network.nextSuffix + 1 } id
    fun function => function.push node

-- The network to which the node of a draft is added: the variables and the types of its results are
-- there.
def Network.readyFor (network : Network) (draft : Draft) : Network :=
  { network.createVariables draft.parameters with
    types := ((network.createVariables draft.parameters).types.internAll draft.results).2 }

-- The small changes that actions are made of, each with the guards it stands behind. An invariant of all
-- runs has one case for each of them, however many actions go through it.
inductive Change (action : Action) : Network → Network → Prop where
  | journal (network : Network) (events : List Event) :
      Change action network { network with journal := events }
  | intern (network : Network) (type : TensorType) : Change action network (network.intern type).2
  | freshName (network : Network) :
      Change action network { network with nextSuffix := network.nextSuffix + 1 }
  | createFunction (network : Network) (name : String) (free : network.hasFunction name = false) :
      Change action network
        { network with functions := network.functions ++
          [{ id := ⟨network.functions.length⟩, name := name }] }
  | createVariable (network : Network) (wanted : Parameter) :
      Change action network (network.createVariable wanted).2
  | setPayload (network : Network) (id : VariableId) (payload : Option (List UInt8)) :
      Change action network { network with storage := network.storage.setPayload id payload }
  | eraseVariable (network : Network) (id : VariableId) (erased : action.erased? = some (.var id)) :
      Change action network { network with storage := network.storage.erase id }
  | numberNodes (network : Network) (count : Nat) :
      Change action network { network with nextNode := network.nextNode + count }
  | addNode (network next : Network) (id : FunctionId) (node : Node) (label : String)
      (adds : network.Adds id node label next) : Change action network next
  | eraseNode (network : Network) (id : FunctionId) (node : NodeId) (erased : action.erased? =
      some (.node node)) :
      Change action network (network.updateFunction id fun function => function.erase node)
  | editNode (network : Network) (id : FunctionId) (node : NodeId) (change : Node → Node)
      (edited : action.edited? = some node) (preserves : Node.Preserves change)
      (named : action.renamed? = some node ∨ ∀ before, (change before).name = before.name) :
      Change action network (network.updateFunction id fun function => function.edit node change)
  | cloneFunction (network : Network) (name : String) (source : FunctionId) (cloned : Function)
      (copies : List Node)
      (free : network.hasFunction name = false) (found : network.function? source = some cloned)
      (copied : (NodeMapping.numberedFrom network.nextNode cloned.nodes).nodes network.storage
        network.nextNode cloned.nodes = .ok copies) (asked : action.cloned? = some source) :
      Change action network
        { network with
          nextNode := network.nextNode + cloned.size
          functions := network.functions ++
            [copies.foldl Function.push { id := ⟨network.functions.length⟩, name := name }] }

abbrev Changes (action : Action) : Network → Network → Prop := Relation.ReflTransGen (Change action)

theorem outcome_map_ok {α β : Type} (answer : α → β) (outcome : Outcome α) (reply : β) (next : Network)
    (mapped : outcome.map answer = (.ok reply, next)) : ∃ value, outcome = (.ok value, next) ∧
      answer value = reply := by
  obtain ⟨result, after⟩ := outcome
  obtain ⟨same, rfl⟩ := Prod.mk.inj mapped
  obtain ⟨value, rfl, made⟩ := (map_ok_iff answer result reply).mp same
  exact ⟨value, rfl, made⟩

theorem outcome_map_error {α β : Type} (answer : α → β) (outcome : Outcome α) (fault : GraphFault)
    (next : Network)
    (mapped : outcome.map answer = (.error fault, next)) : outcome = (.error fault, next) := by
  obtain ⟨result, after⟩ := outcome
  obtain ⟨same, rfl⟩ := Prod.mk.inj mapped
  cases result with
  | ok value => cases same
  | error found => rw [Except.error.inj same]

section Requests

variable (action : Action) (settings : Settings) (network : Network)

theorem create_variables_changes (wanted : List Parameter) :
    Changes action network (network.createVariables wanted) := by
  induction wanted generalizing network with
  | nil => exact .refl
  | cons parameter rest ih =>
      exact .head (.createVariable network parameter) (ih (network.createVariable parameter).2)

theorem intern_all_changes (types : List TensorType) :
    Changes action network { network with types := (network.types.internAll types).2 } := by
  induction types generalizing network with
  | nil => exact .refl
  | cons type rest ih => exact .head (.intern network type) (ih (network.intern type).2)

theorem add_node_cases (id : FunctionId) (label : String) (operator : Operator) (inputs : List Edge)
    (results : List TypeHandle) :
      (∃ fault, network.addNode id label operator inputs results = (.error fault, network)) ∨
      ∃ node next, network.addNode id label operator inputs results = (.ok node.id, next) ∧
        node.operator = operator ∧ node.inputs = inputs ∧ node.results = results ∧
          network.Adds id node label next := by
  unfold Network.addNode
  split
  · exact .inl ⟨_, rfl⟩
  · rename_i function found
    split
    · exact .inl ⟨_, rfl⟩
    · rename_i resolved
      split
      · exact .inl ⟨_, rfl⟩
      · rename_i known
        refine .inr ⟨_, _, rfl, rfl, rfl, rfl, rfl, rfl, rfl, ⟨function, found, ?_⟩, ?_, rfl⟩
        · intro edge member
          have present := List.find?_eq_none.mp resolved edge member
          exact Option.ne_none_iff_exists'.mp (by simpa using present)
        · intro handle member
          have present := List.find?_eq_none.mp known handle member
          exact Option.ne_none_iff_exists'.mp (by simpa using present)

theorem add_node_changes (id : FunctionId) (label : String) (operator : Operator) (inputs : List Edge)
    (results : List TypeHandle) :
    Changes action network (network.addNode id label operator inputs results).2 := by
  rcases add_node_cases network id label operator inputs results
    with ⟨fault, failed⟩ | ⟨node, next, added, _, _, _, adds⟩
  · rw [failed]
  · rw [added]
    exact .single (.addNode network next id node label adds)

theorem ready_changes (draft : Draft) : Changes action network (network.readyFor draft) :=
  (create_variables_changes action network draft.parameters).trans
    (intern_all_changes action (network.createVariables draft.parameters) draft.results)

-- A build, told by the network that is ready for its node.
theorem build_by_steps (id : FunctionId) (function : Function) (draft : Draft) :
    network.build id function draft =
    match ((network.readyFor draft).scopeOf function).typesOf
      (draft.operands.map (Operand.edge network.nextVariable)) with
    | .error fault => (.error fault, network.readyFor draft)
    | .ok types =>
        match draft.operator.check types draft.results with
        | .error fault =>
            (.error (.invalidAttribute draft.label (.operator fault)), network.readyFor draft)
        | .ok _ => (network.readyFor draft).addNode id draft.label draft.operator
            (draft.operands.map (Operand.edge network.nextVariable))
            ((network.createVariables draft.parameters).types.internAll draft.results).1 := rfl

theorem build_cases (id : FunctionId) (function : Function) (draft : Draft) :
    (∃ fault, network.build id function draft = (.error fault, network.readyFor draft)) ∨
      ∃ operands, ((network.readyFor draft).scopeOf function).typesOf
          (draft.operands.map (Operand.edge network.nextVariable)) = .ok operands ∧
        draft.operator.check operands draft.results = .ok () ∧
        network.build id function draft = (network.readyFor draft).addNode id draft.label draft.operator
          (draft.operands.map (Operand.edge network.nextVariable))
          ((network.createVariables draft.parameters).types.internAll draft.results).1 := by
  rw [build_by_steps]
  split
  · exact .inl ⟨_, rfl⟩
  · rename_i operands typed
    split
    · exact .inl ⟨_, rfl⟩
    · rename_i checked
      exact .inr ⟨operands, typed, checked, rfl⟩

theorem build_changes (id : FunctionId) (function : Function) (draft : Draft) :
    Changes action network (network.build id function draft).2 := by
  rcases build_cases network id function draft with ⟨fault, failed⟩ | ⟨operands, _, _, reached⟩
  · rw [failed]
    exact ready_changes action network draft
  · rw [reached]
    exact (ready_changes action network draft).trans
      (add_node_changes action _ id draft.label draft.operator _ _)

theorem add_layer_changes (id : FunctionId) (label : String) (layer : Layer) :
    Changes action network (network.addLayer id label layer).2 := by
  unfold Network.addLayer
  split
  · exact .refl
  · split
    · exact .refl
    · exact build_changes action network id _ _

theorem erase_variable_changes (id : VariableId) (erased : action.erased? = some (.var id)) :
    Changes action network (network.eraseVariable id).2 := by
  unfold Network.eraseVariable
  split
  · exact .tail (.single (.eraseVariable network id erased)) (.journal _ _)
  · exact .refl

theorem erase_changes (id : FunctionId) (target : Producer) (erased : action.erased? = some target) :
    Changes action network (network.erase id target).2 := by
  unfold Network.erase
  split
  · exact .refl
  · cases target with
    | var v => exact erase_variable_changes action network v erased
    | node node =>
        dsimp only
        split
        · exact .refl
        · exact .tail (.single (.eraseNode network id node erased)) (.journal _ _)

theorem edit_node_changes {α : Type} (id : FunctionId) (node : NodeId) (answer : Node → α)
    (change : Node → Node) (edited : action.edited? = some node) (preserves : Node.Preserves change)
    (named : action.renamed? = some node ∨ ∀ before, (change before).name = before.name) :
    Changes action network (network.editNode id node answer change).2 := by
  unfold Network.editNode
  split
  · exact .refl
  · split
    · exact .refl
    · exact .single (.editNode network id node change edited preserves named)

theorem create_function_changes (name : String) :
    Changes action network (network.createFunction name).2 := by
  unfold Network.createFunction
  split
  · exact .refl
  · rename_i free
    exact .tail (.single (.createFunction network name (Bool.eq_false_iff.mpr free))) (.journal _ _)

theorem clone_cases (source : FunctionId) (name : String) :
    (∃ fault, network.cloneFunction source name = (.error fault, network)) ∨
      (∃ fault count, network.cloneFunction source name =
        (.error fault, { network with nextNode := network.nextNode + count })) ∨
      ∃ cloned copies events, network.hasFunction name = false ∧ network.function? source = some cloned ∧
        (NodeMapping.numberedFrom network.nextNode cloned.nodes).nodes network.storage network.nextNode
          cloned.nodes = .ok copies ∧
        network.cloneFunction source name =
          (.ok (⟨network.functions.length⟩, NodeMapping.numberedFrom network.nextNode cloned.nodes),
            { network with
              nextNode := network.nextNode + cloned.size
              functions := network.functions ++
                [copies.foldl Function.push { id := ⟨network.functions.length⟩, name := name }]
              journal := events }) := by
  unfold Network.cloneFunction
  split
  · exact .inl ⟨_, rfl⟩
  · rename_i free
    split
    · exact .inl ⟨_, rfl⟩
    · rename_i cloned found
      dsimp only
      split
      · exact .inr (.inl ⟨_, cloned.size, rfl⟩)
      · rename_i copies copied
        exact .inr (.inr ⟨cloned, copies, _, Bool.eq_false_iff.mpr free, found, copied, rfl⟩)

theorem clone_function_changes (source : FunctionId) (name : String)
    (asked : action.cloned? = some source) :
    Changes action network (network.cloneFunction source name).2 := by
  rcases clone_cases network source name with
    ⟨fault, failed⟩ | ⟨fault, count, failed⟩ | ⟨cloned, copies, events, free, found, copied, done⟩
  · rw [failed]
  · rw [failed]
    exact .single (.numberNodes network count)
  · rw [done]
    exact .tail (.single (.cloneFunction network name source cloned copies free found copied asked))
      (.journal _ events)

theorem verify_one_changes (function : Function) :
    Changes action network (network.verifyOne settings function).2 := by
  unfold Network.verifyOne
  split
  · exact .refl
  · exact .single (.journal _ _)

theorem verify_each_changes (functions : List Function) :
    Changes action network (network.verifyEach settings functions).2 := by
  induction functions generalizing network with
  | nil => exact .refl
  | cons function rest ih =>
      have first := verify_one_changes action settings network function
      unfold Network.verifyEach
      split
      · rename_i next checked
        rw [checked] at first
        exact first.trans (ih next)
      · rename_i next checked
        rw [checked] at first
        exact first

theorem write_changes (subject : Subject) (path contents : String) (refused : Option WriteFault) :
    Changes action network (network.write subject path contents refused).2 := by
  unfold Network.write
  split
  · exact .refl
  · exact .single (.journal _ _)

theorem write_function_drawing_changes (id : FunctionId) (path : Option String)
    (refused : Option WriteFault) :
    Changes action network (network.writeFunctionDrawing settings id path refused).2 := by
  unfold Network.writeFunctionDrawing
  split
  · exact .refl
  · exact write_changes action network _ _ _ _

theorem verify_function_changes (id : FunctionId) :
    Changes action network (network.verifyFunction settings id).2 := by
  unfold Network.verifyFunction
  split
  · exact .refl
  · exact verify_one_changes action settings network _

theorem set_payload_changes (id : VariableId) (payload : Option (List UInt8)) :
    Changes action network (network.setPayload id payload).2 := by
  unfold Network.setPayload
  split
  · exact .single (.setPayload network id payload)
  · exact .refl

end Requests

theorem perform_edit_changes (network : Network) (id : FunctionId) (change : Edit) :
    Changes (.edit id change) network (network.edit id change).2 := by
  cases change with
  | addNode label operator inputs results =>
      exact add_node_changes _ network id label operator inputs results
  | addLayer label layer => exact add_layer_changes _ network id label layer
  | erase target => exact erase_changes _ network id target rfl
  | rename node name =>
      have preserves : Node.Preserves fun before => { before with name := name } :=
        fun _ => ⟨rfl, rfl, rfl⟩
      exact edit_node_changes (.edit id (.rename node name)) network id node
        (fun _ => ()) _ rfl preserves (.inl rfl)
  | setInput node i edge =>
      have preserves : Node.Preserves fun before => before.withInput i edge := fun _ => ⟨rfl, rfl, rfl⟩
      exact edit_node_changes (.edit id (.setInput node i edge)) network id node
        (·.inputs[i]?) _ rfl preserves (.inr fun _ => rfl)
  | setPredicate node predicate =>
      have preserves : Node.Preserves fun before => { before with predicate := predicate } :=
        fun _ => ⟨rfl, rfl, rfl⟩
      exact edit_node_changes (.edit id (.setPredicate node predicate)) network id node
        (fun _ => ()) _ rfl preserves (.inr fun _ => rfl)

theorem perform_changes (settings : Settings) (network : Network) (action : Action) :
    Changes action network (network.perform settings action).2 := by
  cases action with
  | intern type => exact .single (.intern network type)
  | reshape base dims =>
      simp only [Network.perform, TypePool.reshape?]
      cases network.types.get? base with
      | none => exact .refl
      | some type => exact .single (.intern network (type.withDims dims))
  | freshName requested => exact .single (.freshName network)
  | createFunction name => exact create_function_changes _ network name
  | cloneFunction source name => exact clone_function_changes _ network source name rfl
  | createVariable wanted => exact .single (.createVariable network wanted)
  | setPayload id payload => exact set_payload_changes _ network id payload
  | eraseVariable id => exact erase_variable_changes _ network id rfl
  | edit id change => exact perform_edit_changes network id change
  | verify => exact verify_each_changes _ settings network network.functions
  | verifyFunction id => exact verify_function_changes _ settings network id
  | writeDrawing path refused => exact write_changes _ network _ _ _ _
  | writeFunctionDrawing id path refused =>
      exact write_function_drawing_changes _ settings network id path refused

theorem edit_node_failed {α : Type} (network next : Network) (id : FunctionId) (node : NodeId)
    (answer : Node → α) (change : Node → Node) (fault : GraphFault)
    (failed : network.editNode id node answer change = (.error fault, next)) : next = network := by
  unfold Network.editNode at failed
  split at failed
  · exact (Prod.mk.inj failed).2.symm
  · split at failed
    · exact (Prod.mk.inj failed).2.symm
    · cases failed

theorem erase_variable_failed (network next : Network) (id : VariableId) (fault : GraphFault)
    (failed : network.eraseVariable id = (.error fault, next)) : next = network := by
  unfold Network.eraseVariable at failed
  split at failed
  · cases failed
  · exact (Prod.mk.inj failed).2.symm

theorem erase_failed (network next : Network) (id : FunctionId) (target : Producer) (fault : GraphFault)
    (failed : network.erase id target = (.error fault, next)) : next = network := by
  unfold Network.erase at failed
  split at failed
  · exact (Prod.mk.inj failed).2.symm
  · cases target with
    | var v =>
        exact erase_variable_failed network next v fault (outcome_map_error (fun _ => ()) _ _ _ failed)
    | node node =>
        dsimp only at failed
        split at failed
        · exact (Prod.mk.inj failed).2.symm
        · cases failed

theorem failed_touch_unchanged (settings : Settings) (network next : Network) (action : Action)
    (fault : GraphFault) (failed : network.perform settings action = (.error fault, next))
    (touches : action.edited? ≠ none ∨ action.erased? ≠ none) : next = network := by
  cases action with
  | eraseVariable id =>
      exact erase_variable_failed network next id fault (outcome_map_error _ _ _ _ failed)
  | edit id change =>
      cases change with
      | erase target =>
          exact erase_failed network next id target fault (outcome_map_error _ _ _ _ failed)
      | rename node name =>
          exact edit_node_failed network next id node _ _ fault (outcome_map_error _ _ _ _ failed)
      | setInput node i edge =>
          exact edit_node_failed network next id node _ _ fault (outcome_map_error _ _ _ _ failed)
      | setPredicate node predicate =>
          exact edit_node_failed network next id node _ _ fault (outcome_map_error _ _ _ _ failed)
      | _ => simp [Action.edited?, Edit.edited?, Action.erased?] at touches
  | _ => simp [Action.edited?, Action.erased?] at touches

end TensorGraph
