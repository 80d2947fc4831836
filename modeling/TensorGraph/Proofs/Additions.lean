import TensorGraph.Proofs.Plans
import TensorGraph.Proofs.PoolContents

set_option autoImplicit false

namespace TensorGraph

-- The numbers that are given out next.
structure Numbering where
  nextVariable : Nat
  nextSuffix : Nat
  nextNode : Nat

def Network.numbering (network : Network) : Numbering :=
  ⟨network.nextVariable, network.nextSuffix, network.nextNode⟩

def TypePool.handleOf (pool : TypePool) (type : TensorType) : TypeHandle :=
  (pool.handles.lookup type).getD ⟨0⟩

def Parameter.made (pool : TypePool) (number suffix : Nat) (parameter : Parameter) : Variable :=
  { id := ⟨number⟩
    name := uniqueName suffix parameter.name
    type := pool.handleOf parameter.type
    visibility := parameter.visibility
    initializer := parameter.initializer }

def variablesMade (pool : TypePool) (number suffix : Nat) : List Parameter → List Variable
  | [] => []
  | parameter :: rest => parameter.made pool number suffix ::
      variablesMade pool (number + 1) (suffix + 1) rest

def Draft.node (draft : Draft) (pool : TypePool) (start : Numbering) : Node :=
  { id := ⟨start.nextNode⟩
    name := uniqueName (start.nextSuffix + draft.parameters.length) draft.label
    operator := draft.operator
    inputs := draft.operands.map (Operand.edge start.nextVariable)
    results := draft.results.map pool.handleOf }

namespace Plan

def parameters : Plan → List Parameter
  | refuse _ => []
  | abandon draft _ => draft.parameters
  | complete draft => draft.parameters

def types : Plan → List TensorType
  | refuse _ => []
  | abandon draft _ => draft.types
  | complete draft => draft.types

def nodeCount : Plan → Nat
  | complete _ => 1
  | _ => 0

def answer (next : Nat) : Plan → Except GraphFault NodeId
  | refuse fault => .error fault
  | abandon _ fault => .error fault
  | complete _ => .ok ⟨next⟩

def past (plan : Plan) (start : Numbering) : Numbering :=
  ⟨start.nextVariable + plan.parameters.length,
    start.nextSuffix + (plan.parameters.length + plan.nodeCount),
    start.nextNode + plan.nodeCount⟩

def nodes (pool : TypePool) (start : Numbering) : Plan → List Node
  | complete draft => [draft.node pool start]
  | _ => []

def grow (pool : TypePool) (start : Numbering) (plan : Plan) (function : Function) : Function :=
  (plan.nodes pool start).foldl Function.push function

end Plan

-- What a plan adds to a network, with the handles of a pool that has its types.
structure Network.Gains (network : Network) (id : FunctionId) (plan : Plan) (next : Network) : Prop where
  types : next.types = (network.types.internAll plan.types).2
  numbering : next.numbering = plan.past network.numbering
  storage : ∀ pool : TypePool, pool.Exact → next.types.Extends pool →
    next.storage = network.storage.pushAll
      (variablesMade pool network.nextVariable network.nextSuffix plan.parameters)
  functions : ∀ pool : TypePool, pool.Exact → next.types.Extends pool →
    next.functions = network.functions.modify id.index (plan.grow pool network.numbering)

theorem handle_of_known (pool : TypePool) (exact : pool.Exact) (handle : TypeHandle) (type : TensorType)
    (known : pool.get? handle = some type) : pool.handleOf type = handle := by
  rw [TypePool.handleOf, (exact type handle).mpr known]
  rfl

theorem handles_of_known (pool : TypePool) (exact : pool.Exact) (handles : List TypeHandle)
    (types : List TensorType)
    (known : List.Forall₂ (fun handle type => pool.get? handle = some type) handles types) :
    handles = types.map pool.handleOf := by
  induction known with
  | nil => rfl
  | cons here _ ih => rw [List.map_cons, handle_of_known pool exact _ _ here, ← ih]

theorem create_variables_storage (network : Network) (exact : network.types.Exact)
    (wanted : List Parameter) (pool : TypePool) (poolExact : pool.Exact)
    (larger : (network.createVariables wanted).types.Extends pool) :
    (network.createVariables wanted).storage =
      network.storage.pushAll (variablesMade pool network.nextVariable network.nextSuffix wanted) := by
  induction wanted generalizing network with
  | nil => exact (network.storage.push_all_nil).symm
  | cons parameter rest ih =>
      have found := intern_found network.types parameter.type exact
      have grows := (create_variables_larger (network.createVariable parameter).2 rest).types
      have handle := handle_of_known pool poolExact _ _ (larger _ _ (grows _ _ found))
      have later :=
        ih (network.createVariable parameter).2 (intern_exact network.types parameter.type exact) larger
      refine later.trans ?_
      rw [variablesMade, Parameter.made, handle]
      exact network.storage.push_all_cons (network.createVariable parameter).1 _

theorem create_variables_numbering (network : Network) (wanted : List Parameter) :
    (network.createVariables wanted).numbering =
    ⟨network.nextVariable + wanted.length, network.nextSuffix + wanted.length, network.nextNode⟩ := by
  induction wanted generalizing network with
  | nil => rfl
  | cons parameter rest ih =>
      refine (ih (network.createVariable parameter).2).trans ?_
      simp only [Network.createVariable, Network.report, List.length_cons, Numbering.mk.injEq, and_true]
      omega

theorem refused_gains (network : Network) (id : FunctionId) (fault : GraphFault) :
    network.Gains id (.refuse fault) network :=
  ⟨rfl, rfl, fun _ _ _ => (network.storage.push_all_nil).symm, fun _ _ _ => (List.modify_id ..).symm⟩

section Ready

variable (network : Network) (kept : network.Represented) (id : FunctionId) (draft : Draft)

include kept

theorem ready_storage (pool : TypePool) (exact : pool.Exact)
    (larger : (network.readyFor draft).types.Extends pool) :
    (network.readyFor draft).storage =
      network.storage.pushAll (variablesMade pool network.nextVariable network.nextSuffix
        draft.parameters) :=
  create_variables_storage network kept.types draft.parameters pool exact
    (pool_extends_trans _ _ _ (supplied_larger network draft).types larger)

theorem abandoned_gains (fault : GraphFault) :
    network.Gains id (.abandon draft fault) (network.readyFor draft) := by
  refine ⟨ready_types network draft, create_variables_numbering network draft.parameters,
    ready_storage network kept draft, fun _ _ _ => ?_⟩
  exact (create_variables_functions network draft.parameters).trans (List.modify_id ..).symm

omit kept

theorem built_node (function : Function) (node : Node) (operands : List TensorType) (next : Network)
    (builds : network.Builds id function draft node operands next) (pool : TypePool) (exact : pool.Exact)
    (larger : (network.readyFor draft).types.Extends pool) :
      node = draft.node pool network.numbering := by
  obtain ⟨_, suffixes, nodes⟩ := Numbering.mk.inj (create_variables_numbering network draft.parameters)
  have number := builds.adds.number
  have named := builds.adds.named
  have unguarded := builds.adds.unguarded
  have operator := builds.operator
  have inputs := builds.inputs
  have results := handles_of_known pool exact node.results draft.results
    (builds.known.imp fun handle type => larger handle type)
  obtain ⟨_, _, _, _, _, _⟩ := node
  simp only at number named unguarded operator inputs results
  subst number named unguarded operator inputs results
  simp only [Draft.node, Network.numbering, Network.readyFor, suffixes, nodes]

include kept

theorem built_gains (function : Function) (node : Node) (operands : List TensorType) (next : Network)
    (builds : network.Builds id function draft node operands next) :
    network.Gains id (.complete draft) next := by
  have numbers := create_variables_numbering network draft.parameters
  have sameTypes := ready_types network draft
  have made := built_node network id draft function node operands next builds
  obtain ⟨_, _, _, _, _, rfl⟩ := builds.adds
  refine ⟨sameTypes, ?_, fun pool exact larger => ready_storage network kept draft pool exact larger, ?_⟩
  · obtain ⟨stored, suffixes, nodes⟩ := Numbering.mk.inj numbers
    simp only [Network.numbering, Network.updateFunction, Network.readyFor, Plan.past, Plan.nodeCount,
      Plan.parameters, stored, suffixes, nodes, Nat.add_assoc]
  · intro pool exact larger
    rw [made pool exact larger]
    exact congrArg (List.modify · id.index _) (create_variables_functions network draft.parameters)

end Ready

-- A call does what is planned for it.
theorem planned_layer (network : Network) (kept : network.Represented) (id : FunctionId) (label : String)
    (layer : Layer) (plan : Plan) (planned : network.Plans id label layer plan) :
    (network.addLayer id label layer).1 = plan.answer network.nextNode ∧
      network.Gains id plan (network.addLayer id label layer).2 := by
  unfold Network.addLayer
  cases planned with
  | stray missing =>
      rw [missing]
      exact ⟨rfl, refused_gains network id _⟩
  | refused function found fault drafted =>
      simp only [found, drafted]
      exact ⟨rfl, refused_gains network id _⟩
  | abandoned function found draft drafted types supplied fault failed =>
      simp only [found, drafted, build_by_steps,
        ready_operands_typed network kept function draft types supplied, failed]
      exact ⟨rfl, abandoned_gains network kept id draft _⟩
  | completed function found draft drafted types supplied checked =>
      obtain ⟨made, built⟩ :=
        checked_draft_built network kept id function found draft types supplied checked
      obtain ⟨node, operands, rfl, builds⟩ :=
        build_done network _ id function draft made (Prod.ext built rfl) kept
      have number := create_variables_number network draft.parameters
      simp only [found, drafted]
      refine ⟨?_, built_gains network kept id draft function node operands _ builds⟩
      rw [built, builds.adds.number]
      exact congrArg (fun n => Except.ok (NodeId.mk n)) number

theorem variable_made_number (pool : TypePool) (number suffix : Nat) (wanted : List Parameter)
    (v : Variable) (listed : v ∈ variablesMade pool number suffix wanted) : number ≤ v.id.index := by
  induction wanted generalizing number suffix with
  | nil => cases listed
  | cons parameter rest ih =>
      rcases List.mem_cons.mp listed with rfl | later
      · exact Nat.le_refl _
      · exact Nat.le_of_succ_le (ih _ _ later)

section Elsewhere

variable (network next : Network) (kept : network.Represented) (nextKept : next.Represented)
  (id : FunctionId) (plan : Plan) (gains : network.Gains id plan next)

include gains

omit nextKept in
theorem gained_types : network.types.Extends next.types := gains.types ▸ intern_all_extends _ _

include nextKept

theorem gained_storage : next.storage =
    network.storage.pushAll (variablesMade next.types network.nextVariable network.nextSuffix
      plan.parameters) :=
  gains.storage next.types nextKept.types (pool_extends_refl _)

theorem function_elsewhere (other : FunctionId) (apart : id ≠ other) :
    next.function? other = network.function? other := by
  have different : id.index ≠ other.index := fun same => apart (congrArg FunctionId.mk same)
  rw [Network.function?, gains.functions next.types nextKept.types (pool_extends_refl _)]
  exact List.getElem?_modify_ne _ _ different

theorem issued_variable_stays (v : VariableId) (issued : v.index < network.nextVariable) :
    next.storage.get? v = network.storage.get? v := by
  rw [gained_storage network next nextKept id plan gains]
  refine network.storage.pushed_all_elsewhere v _ fun made listed same => ?_
  have later := variable_made_number _ _ _ _ made listed
  rw [same] at later
  omega

theorem gained_larger (kept : network.Represented) : network.Larger next := by
  refine ⟨gained_types network next id plan gains, fun v stored found => ?_⟩
  obtain ⟨listed, rfl⟩ := (variable_iff _ _ _ kept.storage v stored).mp found
  rw [issued_variable_stays network next nextKept id plan gains _ (kept.storage.below stored listed)]
  exact found

include kept

-- What an issued number leads to is not disturbed by what is added somewhere else.
theorem issued_edge_elsewhere (function : Function) (member : function ∈ network.functions)
    (label : String) (edge : Edge) (issued : network.Issued edge.producer) :
    (next.scopeOf function).operand label edge = (network.scopeOf function).operand label edge ∧
      (next.scopeOf function).producerName edge.producer =
        (network.scopeOf function).producerName edge.producer := by
  have larger := gained_types network next id plan gains
  have same : (next.scopeOf function).handle? edge = (network.scopeOf function).handle? edge ∧
      (next.scopeOf function).producerName edge.producer =
        (network.scopeOf function).producerName edge.producer := by
    obtain ⟨producer, slot⟩ := edge
    cases producer with
    | node node => exact ⟨rfl, rfl⟩
    | var v =>
        have stays := issued_variable_stays network next nextKept id plan gains v issued
        simp only [Scope.handle?, Scope.producerName, Network.scopeOf, stays, and_self]
  refine ⟨?_, same.2⟩
  simp only [Scope.operand, same.1]
  cases resolved : (network.scopeOf function).handle? edge with
  | none => rfl
  | some handle =>
      obtain ⟨type, known⟩ := resolved_handle_known network kept function member edge handle resolved
      simp only [Option.bind_some, Network.scopeOf, known, larger handle type known]

theorem plan_elsewhere (other : FunctionId) (apart : id ≠ other) (label : String) (layer : Layer)
    (issued : ∀ edge ∈ layer.edges, network.Issued edge.producer) (planned : Plan)
    (plans : network.Plans other label layer planned) : next.Plans other label layer planned := by
  have sameFunction := function_elsewhere network next nextKept id plan gains other apart
  have larger := gained_larger network next nextKept id plan gains kept
  have sameDraft : ∀ function, network.function? other = some function →
      (next.scopeOf function).draft label layer = (network.scopeOf function).draft label layer := by
    intro function found
    refine draft_agrees _ _ label layer fun edge listed => ?_
    exact issued_edge_elsewhere network next kept nextKept id plan gains function
      (List.mem_of_getElem? found) label edge (issued edge listed)
  have supplies : ∀ function parameters operand type,
      (network.scopeOf function).Supplies parameters operand type →
      (next.scopeOf function).Supplies parameters operand type := by
    intro function parameters operand type supplied
    cases operand with
    | given edge => exact yields_larger network next larger function edge type supplied
    | fresh i => exact supplied
  cases plans with
  | stray missing => exact .stray (sameFunction.trans missing)
  | refused function found fault drafted =>
      exact .refused function (sameFunction.trans found) fault ((sameDraft function found).trans drafted)
  | abandoned function found draft drafted types supplied fault failed =>
      exact .abandoned function (sameFunction.trans found) draft
        ((sameDraft function found).trans drafted) types
        (supplied.imp (supplies function draft.parameters)) fault failed
  | completed function found draft drafted types supplied checked =>
      exact .completed function (sameFunction.trans found) draft
        ((sameDraft function found).trans drafted) types
        (supplied.imp (supplies function draft.parameters)) checked

end Elsewhere

end TensorGraph
