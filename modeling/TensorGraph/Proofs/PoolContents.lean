import TensorGraph.Proofs.Building
import TensorGraph.Proofs.Drafting

set_option autoImplicit false

namespace TensorGraph

namespace Network

-- The types that an action asks the pool for, in order.
def interned (network : Network) : Action → List TensorType
  | .intern type => [type]
  | .reshape base dims => (network.types.get? base).toList.map fun type => type.withDims dims
  | .createVariable wanted => [wanted.type]
  | .edit id (.addLayer label layer) =>
      match network.function? id with
      | none => []
      | some function =>
          match (network.scopeOf function).draft label layer with
          | .error _ => []
          | .ok draft => draft.types
  | _ => []

end Network

section Unchanged

variable (network : Network)

theorem create_variables_types (wanted : List Parameter) :
    (network.createVariables wanted).types =
      (network.types.internAll (wanted.map Parameter.type)).2 := by
  induction wanted generalizing network with
  | nil => rfl
  | cons parameter rest ih => exact ih (network.createVariable parameter).2

theorem ready_types (draft : Draft) :
    (network.readyFor draft).types = (network.types.internAll draft.types).2 := by
  rw [Network.readyFor, create_variables_types, Draft.types, intern_all_append]

theorem add_node_types (id : FunctionId) (label : String) (operator : Operator) (inputs : List Edge)
    (results : List TypeHandle) : (network.addNode id label operator inputs results).2.types =
      network.types := by
  rcases add_node_cases network id label operator inputs results
    with ⟨_, failed⟩ | ⟨node, next, added, _, _, _, adds⟩
  · rw [failed]
  · rw [added, adds.result]
    rfl

theorem build_types (id : FunctionId) (function : Function) (draft : Draft) :
    (network.build id function draft).2.types = (network.types.internAll draft.types).2 := by
  rw [← ready_types]
  rcases build_cases network id function draft with ⟨_, failed⟩ | ⟨operands, _, _, reached⟩
  · rw [failed]
  · rw [reached, add_node_types]

theorem clone_function_types (source : FunctionId) (name : String) :
    (network.cloneFunction source name).2.types = network.types := by
  rcases clone_cases network source name
    with ⟨_, failed⟩ | ⟨_, count, failed⟩ | ⟨cloned, copies, events, _, _, _, done⟩
  · rw [failed]
  · rw [failed]
  · rw [done]

theorem verify_one_types (settings : Settings) (function : Function) :
    (network.verifyOne settings function).2.types = network.types := by
  unfold Network.verifyOne
  split <;> rfl

theorem verify_each_types (settings : Settings) (functions : List Function) :
    (network.verifyEach settings functions).2.types = network.types := by
  induction functions generalizing network with
  | nil => rfl
  | cons function rest ih =>
      have first := verify_one_types network settings function
      unfold Network.verifyEach
      split
      · rename_i next checked
        rw [checked] at first
        exact (ih next).trans first
      · rename_i next checked
        rw [checked] at first
        exact first

theorem write_types (subject : Subject) (path contents : String) (refused : Option WriteFault) :
    (network.write subject path contents refused).2.types = network.types := by
  unfold Network.write
  split <;> rfl

theorem edit_node_types {α : Type} (id : FunctionId) (node : NodeId) (answer : Node → α)
    (change : Node → Node) :
    (network.editNode id node answer change).2.types = network.types := by
  unfold Network.editNode
  split
  · rfl
  · split <;> rfl

theorem erase_variable_types (id : VariableId) : (network.eraseVariable id).2.types = network.types := by
  unfold Network.eraseVariable
  split <;> rfl

theorem erase_types (id : FunctionId) (target : Producer) :
    (network.erase id target).2.types = network.types := by
  unfold Network.erase
  split
  · rfl
  · cases target with
    | var v => exact erase_variable_types network v
    | node node =>
        dsimp only
        split <;> rfl

theorem edit_types (id : FunctionId) (change : Edit) :
    (network.edit id change).2.types =
      (network.types.internAll (network.interned (.edit id change))).2 := by
  cases change with
  | addNode label operator inputs results =>
      exact add_node_types network id label operator inputs results
  | addLayer label layer =>
      simp only [Network.edit, Outcome.map, Network.addLayer, Network.interned]
      cases network.function? id with
      | none => rfl
      | some function =>
          dsimp only
          cases (network.scopeOf function).draft label layer with
          | error fault => rfl
          | ok draft => exact build_types network id function draft
  | erase target => exact erase_types network id target
  | rename node name => exact edit_node_types network id node _ _
  | setInput node i edge => exact edit_node_types network id node _ _
  | setPredicate node predicate => exact edit_node_types network id node _ _

end Unchanged

theorem perform_types (settings : Settings) (network : Network) (action : Action) :
    (network.perform settings action).2.types =
      (network.types.internAll (network.interned action)).2 := by
  cases action with
  | intern type => rfl
  | reshape base dims =>
      simp only [Network.perform, TypePool.reshape?, Network.interned]
      cases network.types.get? base with
      | none => rfl
      | some type => rfl
  | freshName requested => rfl
  | createFunction name =>
      simp only [Network.perform, Outcome.map, Network.createFunction]
      split <;> rfl
  | cloneFunction source name => exact clone_function_types network source name
  | createVariable wanted => rfl
  | setPayload id payload =>
      simp only [Network.perform, Outcome.map, Network.setPayload]
      split <;> rfl
  | eraseVariable id => exact erase_variable_types network id
  | edit id change => exact edit_types network id change
  | verify => exact verify_each_types network settings network.functions
  | verifyFunction id =>
      simp only [Network.perform, Outcome.map, Network.verifyFunction]
      split
      · rfl
      · exact verify_one_types network settings _
  | writeDrawing path refused => exact write_types network _ _ _ _
  | writeFunctionDrawing id path refused =>
      simp only [Network.perform, Outcome.map, Network.writeFunctionDrawing]
      split
      · rfl
      · exact write_types network _ _ _ _

theorem run_snoc (settings : Settings) (network : Network) (actions : List Action) (action : Action) :
    Network.run settings network (actions ++ [action]) =
      ((Network.run settings network actions).perform settings action).2 :=
  List.foldl_concat ..

end TensorGraph
