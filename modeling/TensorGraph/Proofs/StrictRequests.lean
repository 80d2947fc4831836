import TensorGraph.Network.Action
import TensorGraph.Proofs.Atomicity
import TensorGraph.Proofs.StrictFunctions
import TensorGraph.Proofs.StrictLayers

set_option autoImplicit false

namespace TensorGraph

-- Variables and nodes are counted in words of 32 bits, names in words of 64. A network that has seen
-- fewer than 2^32 creations has each of its counters within its word.
structure Network.Fits (network : Network) : Prop where
  storage : network.nextVariable < UInt32.size
  nodes : network.nextNode < UInt32.size
  names : network.nextSuffix < UInt64.size

namespace Strict

-- A counter is moved on inside of a word that holds fewer than `size` numbers.
def advance (size counter : Nat) : Option Nat := if counter + 1 < size then some (counter + 1) else none

def freshName (network : Network) (requested : String) : Option (String × Network) := do
  let suffix ← advance UInt64.size network.nextSuffix
  some (uniqueName network.nextSuffix requested, { network with nextSuffix := suffix })

def createVariable (network : Network) (wanted : Parameter) : Option (Variable × Network) := do
  let number ← advance UInt32.size network.nextVariable
  let suffix ← advance UInt64.size network.nextSuffix
  let created := network.createVariable wanted
  some (created.1, { created.2 with nextVariable := number, nextSuffix := suffix })

def createVariables (network : Network) : List Parameter → Option Network
  | [] => some network
  | parameter :: rest => do
      let created ← createVariable network parameter
      createVariables created.2 rest

section Counters

variable (network : Network)

theorem advance_fits (size counter : Nat) (fits : counter + 1 < size) :
    advance size counter = some (counter + 1) :=
  if_pos fits

theorem fresh_name_refines (requested : String) (fits : (network.freshName requested).2.Fits) :
    freshName network requested = some (network.freshName requested) := by
  rw [freshName, advance_fits _ _ fits.names]
  rfl

theorem create_variable_refines (wanted : Parameter) (fits : (network.createVariable wanted).2.Fits) :
    createVariable network wanted = some (network.createVariable wanted) := by
  rw [createVariable, advance_fits _ _ fits.storage, advance_fits _ _ fits.names]
  rfl

-- Counters only rise.
theorem fits_before_variables (wanted : List Parameter) (fits : (network.createVariables wanted).Fits) :
    network.Fits := by
  induction wanted generalizing network with
  | nil => exact fits
  | cons parameter rest ih =>
      obtain ⟨storage, nodes, names⟩ := ih (network.createVariable parameter).2 fits
      exact ⟨Nat.lt_of_succ_lt storage, nodes, Nat.lt_of_succ_lt names⟩

theorem create_variables_refine (wanted : List Parameter)
    (fits : (network.createVariables wanted).Fits) :
    createVariables network wanted = some (network.createVariables wanted) := by
  induction wanted generalizing network with
  | nil => rfl
  | cons parameter rest ih =>
      have created := create_variable_refines network parameter (fits_before_variables _ rest fits)
      rw [createVariables, created]
      exact ih (network.createVariable parameter).2 fits

end Counters

def addNode (network : Network) (id : FunctionId) (label : String) (operator : Operator)
    (inputs : List Edge) (results : List TypeHandle) : Option (Outcome NodeId) :=
  match network.function? id with
  | none => some (.error (.unknownFunction id), network)
  | some function => do
      let function ← opened function
      match inputs.find? fun edge => ((network.scopeOf function).handle? edge).isNone with
      | some edge => some (.error (.unknownOperand label edge), network)
      | none =>
          match results.find? fun handle => (network.types.get? handle).isNone with
          | some handle => some (.error (.unknownType label handle), network)
          | none => do
              let number ← advance UInt32.size network.nextNode
              let suffix ← advance UInt64.size network.nextSuffix
              let node : Node := {
                id := ⟨network.nextNode⟩
                name := uniqueName network.nextSuffix label
                operator := operator
                inputs := inputs
                results := results }
              some (.ok node.id,
                Network.updateFunction { network with nextNode := number, nextSuffix := suffix } id
                  fun function => function.push node)

theorem add_node_refines (network : Network) (id : FunctionId) (label : String) (operator : Operator)
    (inputs : List Edge) (results : List TypeHandle)
    (indexed : ∀ function, network.function? id = some function → function.Indexed)
    (fits : (network.addNode id label operator inputs results).2.Fits) :
    addNode network id label operator inputs results =
      some (network.addNode id label operator inputs results) := by
  unfold addNode
  unfold Network.addNode at fits ⊢
  cases found : network.function? id with
  | none => rfl
  | some function =>
      simp only [found] at fits ⊢
      rw [opened_refines function (indexed function found), Option.bind_eq_bind, Option.bind_some]
      cases unresolved : inputs.find? fun edge => ((network.scopeOf function).handle? edge).isNone with
      | some edge => rfl
      | none =>
          simp only [unresolved] at fits ⊢
          cases unknown : results.find? fun handle => (network.types.get? handle).isNone with
          | some handle => rfl
          | none =>
              simp only [unknown] at fits ⊢
              rw [advance_fits _ _ fits.nodes, advance_fits _ _ fits.names]
              rfl

def build (network : Network) (id : FunctionId) (function : Function) (draft : Draft) :
    Option (Outcome NodeId) := do
  let inputs := draft.operands.map (Operand.edge network.nextVariable)
  let supplied ← createVariables network draft.parameters
  let handles := supplied.types.internAll draft.results
  let ready := { supplied with types := handles.2 }
  match (ready.scopeOf function).typesOf inputs with
  | .error fault => some (.error fault, ready)
  | .ok types => do
      let checked ← outcome? (check draft.operator types draft.results)
      match checked with
      | .error fault => some (.error (.invalidAttribute draft.label (.operator fault)), ready)
      | .ok _ => addNode ready id draft.label draft.operator inputs handles.1

-- Layers bring as many operands and results as their operators ask for.
theorem draft_counts (scope : Scope) (label : String) (layer : Layer) (draft : Draft)
    (drafted : scope.draft label layer = .ok draft) :
    draft.operator.TakesInputs draft.operands.length ∧
      draft.results.length = draft.operator.resultCount := by
  rcases (draft_sound scope label draft layer drafted).granted
    with ⟨types, granted⟩ | ⟨result, unscaled, _, _⟩
  · rw [granted.supplied.length_eq]
    exact check_counts draft.operator types draft.results
      ((check_iff _ _ _).mpr ⟨granted.shapes, granted.elements⟩)
  · cases unscaled with
    | dequantize input type _ _ _ =>
        simp only [Scope.draft, bind_ok_iff, Except.ok.injEq] at drafted
        obtain ⟨_, _, _, _, rfl⟩ := drafted
        exact ⟨rfl, rfl⟩
    | rescaleQuantized input result type _ _ _ =>
        simp only [Scope.draft, bind_ok_iff, Except.ok.injEq] at drafted
        obtain ⟨_, _, _, _, _, _, rfl⟩ := drafted
        exact ⟨rfl, rfl⟩

theorem fits_before_build (network : Network) (id : FunctionId) (function : Function) (draft : Draft)
    (fits : (network.build id function draft).2.Fits) :
      (network.createVariables draft.parameters).Fits := by
  rcases build_cases network id function draft with ⟨fault, failed⟩ | ⟨operands, _, _, reached⟩
  · rw [failed] at fits
    exact ⟨fits.storage, fits.nodes, fits.names⟩
  · rw [reached] at fits
    rcases add_node_cases (network.readyFor draft) id draft.label draft.operator _ _ with
      ⟨fault, failed⟩ | ⟨node, next, added, _, _, _, adds⟩
    · rw [failed] at fits
      exact ⟨fits.storage, fits.nodes, fits.names⟩
    · rw [added, adds.result] at fits
      exact ⟨fits.storage, Nat.lt_of_succ_lt fits.nodes, Nat.lt_of_succ_lt fits.names⟩

theorem build_refines (network : Network) (id : FunctionId) (function : Function) (draft : Draft)
    (found : network.function? id = some function) (indexed : function.Indexed)
    (takes : draft.operator.TakesInputs draft.operands.length)
    (gives : draft.results.length = draft.operator.resultCount)
    (fits : (network.build id function draft).2.Fits) :
    build network id function draft = some (network.build id function draft) := by
  have supplied :=
    create_variables_refine network draft.parameters (fits_before_build network id function draft fits)
  have stillIndexed : ∀ other, (network.readyFor draft).function? id = some other → other.Indexed := by
    intro other again
    rw [ready_function, found] at again
    rwa [← Option.some.inj again]
  rw [build, supplied, Option.bind_eq_bind, Option.bind_some]
  unfold Network.build at fits ⊢
  dsimp only at fits ⊢
  cases typed : Scope.typesOf _ (draft.operands.map (Operand.edge network.nextVariable)) with
  | error fault => rfl
  | ok types =>
      have count := ((types_of_iff _ _ _).mp typed).length_eq
      rw [List.length_map] at count
      have checked : outcome? (check draft.operator types draft.results) =
          some (draft.operator.check types draft.results) :=
        check_refines draft.operator types draft.results (count ▸ takes) gives
      simp only [typed] at fits ⊢
      rw [checked, Option.bind_eq_bind, Option.bind_some]
      cases accepted : draft.operator.check types draft.results with
      | error fault => rfl
      | ok value =>
          simp only [accepted] at fits ⊢
          exact add_node_refines (network.readyFor draft) id draft.label draft.operator _ _
            stillIndexed fits

def addLayer (network : Network) (id : FunctionId) (label : String) (layer : Layer) :
    Option (Outcome NodeId) :=
  match network.function? id with
  | none => some (.error (.unknownFunction id), network)
  | some function => do
      let function ← opened function
      let drafted ← outcome? (draft (network.scopeOf function) label layer)
      match drafted with
      | .error fault => some (.error fault, network)
      | .ok draft => build network id function draft

section Requests

variable (settings : Settings) (network : Network)

theorem add_layer_refines (id : FunctionId) (label : String) (layer : Layer)
    (indexed : ∀ function, network.function? id = some function → function.Indexed)
    (fits : (network.addLayer id label layer).2.Fits) :
    addLayer network id label layer = some (network.addLayer id label layer) := by
  unfold addLayer
  unfold Network.addLayer at fits ⊢
  cases found : network.function? id with
  | none => rfl
  | some function =>
      have drafts : outcome? (draft (network.scopeOf function) label layer) =
          some ((network.scopeOf function).draft label layer) := draft_refines _ label layer
      simp only [found] at fits ⊢
      rw [opened_refines function (indexed function found), Option.bind_eq_bind,
        Option.bind_some, drafts, Option.bind_eq_bind, Option.bind_some]
      cases drafted : (network.scopeOf function).draft label layer with
      | error fault => rfl
      | ok draft =>
          simp only [drafted] at fits ⊢
          obtain ⟨takes, gives⟩ := draft_counts _ label layer draft drafted
          exact build_refines network id function draft found (indexed function found) takes gives fits

end Requests

def eraseTarget (network : Network) (id : FunctionId) (target : Producer) : Option (Outcome Unit) :=
  match network.function? id with
  | none => some (.error (.unknownFunction id), network)
  | some function =>
      match target with
      | .var _ => some (network.erase id target)
      | .node node =>
          match function.positions.lookup node with
          | none => some (.error (.nodeNotFound target), network)
          | some gap => do
              let erased ← function.nodes[gap]?
              let shrunk ← erase function node
              some (.ok (),
                (network.updateFunction id fun _ => shrunk).report
                  (.erasedNode function.name erased.name))

theorem update_known (network : Network) (id : FunctionId) (function : Function)
    (change : Function → Function) (found : network.function? id = some function) :
    (network.updateFunction id fun _ => change function) = network.updateFunction id change := by
  have entries : network.functions.modify id.index (fun _ => change function) =
      network.functions.modify id.index change := by
    refine List.ext_getElem? fun i => ?_
    rw [List.getElem?_modify, List.getElem?_modify]
    by_cases here : id.index = i
    · subst i
      rw [Network.function?] at found
      simp [found]
    · simp [here]
  rw [Network.updateFunction, entries]
  rfl

theorem erase_target_refines (network : Network) (id : FunctionId) (target : Producer)
    (indexed : ∀ function, network.function? id = some function → function.Indexed) :
    eraseTarget network id target = some (network.erase id target) := by
  unfold eraseTarget
  cases found : network.function? id with
  | none => simp only [Network.erase, found]
  | some function =>
      cases target with
      | var v => rfl
      | node node =>
          have shrunk := erase_refines function (indexed function found) node
          have same := update_known network id function (fun function => function.erase node) found
          cases stored : function.positions.lookup node with
          | none => simp [Network.erase, found, Function.node?, stored]
          | some gap =>
              obtain ⟨erased, access, _⟩ :=
                (position_iff function (indexed function found) node gap).mp stored
              simp [Network.erase, found, Function.node?, stored, access, shrunk, same]

-- Pairs nodes with the numbers from a counter on, and says how far the counter has come.
def numberAll (next : Nat) : List Node → Option (NodeMapping × Nat)
  | [] => some ([], next)
  | node :: rest => do
      let after ← advance UInt32.size next
      let numbered ← numberAll after rest
      some ((node.id, ⟨next⟩) :: numbered.1, numbered.2)

theorem number_all_refines (next : Nat) (nodes : List Node) (fits : next + nodes.length < UInt32.size) :
    numberAll next nodes = some (NodeMapping.numberedFrom next nodes, next + nodes.length) := by
  induction nodes generalizing next with
  | nil => rfl
  | cons node rest ih =>
      rw [List.length_cons] at fits
      have pairs : NodeMapping.numberedFrom next (node :: rest) =
          (node.id, ⟨next⟩) :: NodeMapping.numberedFrom (next + 1) rest := by
        rw [NodeMapping.numberedFrom, NodeMapping.numberedFrom, List.zipIdx_cons, List.map_cons,
          List.zipIdx_succ, List.map_map]
        refine congrArg (_ :: ·) (List.map_congr_left fun entry _ => ?_)
        simp [Nat.add_assoc, Nat.add_comm 1]
      rw [numberAll, advance_fits _ _ (by omega), Option.bind_eq_bind, Option.bind_some,
        ih (next + 1) (by omega), pairs, List.length_cons, Nat.add_assoc, Nat.add_comm 1]
      rfl

theorem numbered_lookup (start : Nat) (function : Function) (indexed : function.Indexed)
    (i : Nat) (node : Node) (access : function.nodes[i]? = some node) :
    (NodeMapping.numberedFrom start function.nodes).lookup node.id = some ⟨start + i⟩ := by
  have apart : ((NodeMapping.numberedFrom start function.nodes).map Prod.fst).Nodup := by
    rw [numbered_keys]
    exact node_ids_apart function indexed
  refine (lookup_iff_entry _ apart _ _).mpr (List.mem_map.mpr ⟨(node, i), ?_, rfl⟩)
  exact List.mk_mem_zipIdx_iff_getElem?.mpr access

def cloneFunction (network : Network) (source : FunctionId) (name : String) :
    Option (Outcome (FunctionId × NodeMapping)) :=
  if network.hasFunction name then some (.error (.duplicateFunction name), network)
  else
    match network.function? source with
    | none => some (.error (.unknownFunction source), network)
    | some cloned => do
        let mapping ← numberAll network.nextNode cloned.nodes
        let numbered := { network with nextNode := mapping.2 }
        let copied ← outcome? (copyAll mapping.1 network.storage cloned.nodes)
        match copied with
        | .error fault => some (.error fault, numbered)
        | .ok copies =>
            let id : FunctionId := ⟨network.functions.length⟩
            let copy := copies.foldl Function.push { id := id, name := name }
            some (.ok (id, mapping.1),
              Network.report { numbered with functions := network.functions ++ [copy] }
                (.clonedFunction cloned.name name copy.size))

theorem clone_function_refines (network : Network) (source : FunctionId) (name : String)
    (indexed : ∀ function, network.function? source = some function → function.Indexed)
    (fits : (network.cloneFunction source name).2.Fits) :
    cloneFunction network source name = some (network.cloneFunction source name) := by
  unfold cloneFunction
  unfold Network.cloneFunction at fits ⊢
  by_cases taken : network.hasFunction name = true
  · rw [if_pos taken, if_pos taken]
  rw [if_neg taken] at fits
  rw [if_neg taken, if_neg taken]
  cases found : network.function? source with
  | none => rfl
  | some cloned =>
      have held := numbered_lookup network.nextNode cloned (indexed cloned found)
      have copying : outcome? (copyAll (NodeMapping.numberedFrom network.nextNode cloned.nodes)
        network.storage cloned.nodes) =
          some ((NodeMapping.numberedFrom network.nextNode cloned.nodes).nodes network.storage
            network.nextNode cloned.nodes) :=
        copy_all_refines _ network.storage network.nextNode cloned.nodes held
      have room : network.nextNode + cloned.nodes.length < UInt32.size := by
        simp only [found] at fits
        split at fits
        · exact fits.nodes
        · exact fits.nodes
      dsimp only
      rw [number_all_refines network.nextNode cloned.nodes room, Option.bind_eq_bind,
        Option.bind_some, copying, Option.bind_eq_bind, Option.bind_some]
      cases (NodeMapping.numberedFrom network.nextNode cloned.nodes).nodes network.storage
        network.nextNode cloned.nodes with
      | error fault => rfl
      | ok copies => rfl

def verifyOne (settings : Settings) (network : Network) (function : Function) :
    Option (Outcome Unit) := do
  let function ← opened function
  let verdict ← outcome? (verify (network.scopeOf function))
  match verdict with
  | .ok _ => some (.ok (), network)
  | .error found => some (.error (.violation found),
      { network with journal := network.journal ++
        Network.failureEvents settings (network.scopeOf function) found })

def verifyEach (settings : Settings) (network : Network) : List Function → Option (Outcome Unit)
  | [] => some (.ok (), network)
  | function :: rest => do
      let outcome ← verifyOne settings network function
      match outcome with
      | (.ok _, network) => verifyEach settings network rest
      | (.error fault, network) => some (.error fault, network)

section Verification

variable (settings : Settings) (network : Network)
  (typed : ∀ v ∈ network.storage, ∃ type, network.types.get? v.type = some type)

include typed

theorem verify_one_refines (function : Function) (indexed : function.Indexed) :
    verifyOne settings network function = some (network.verifyOne settings function) := by
  have verdict : outcome? (verify (network.scopeOf function)) = some (network.scopeOf function).verify :=
    verify_refines (network.scopeOf function) typed
  rw [verifyOne, opened_refines function indexed, Option.bind_eq_bind, Option.bind_some, verdict,
    Option.bind_eq_bind, Option.bind_some, Network.verifyOne]
  cases (network.scopeOf function).verify with
  | error found => rfl
  | ok value => rfl

theorem verify_each_refines (functions : List Function)
    (indexed : ∀ function ∈ functions, function.Indexed) :
    verifyEach settings network functions = some (network.verifyEach settings functions) := by
  induction functions with
  | nil => rfl
  | cons function rest ih =>
      obtain ⟨head, later⟩ := List.forall_mem_cons.mp indexed
      rw [verifyEach, verify_one_refines settings network typed function head, Option.bind_eq_bind,
        Option.bind_some, Network.verifyEach]
      unfold Network.verifyOne
      cases (network.scopeOf function).verify with
      | error found => rfl
      | ok value => exact ih later

end Verification

-- An action without steps of this kind is performed as it is.
def perform (settings : Settings) (network : Network) : Action → Option (Outcome Reply)
  | .reshape base dims => do
      let type ← network.types.get? base
      let result := network.types.intern (type.withDims dims)
      some (.ok (.type (some result.1)), { network with types := result.2 })
  | .freshName requested => do
      let result ← freshName network requested
      some (.ok (.name result.1), result.2)
  | .cloneFunction source name =>
      (cloneFunction network source name).map (Outcome.map fun result => .clone result.1 result.2)
  | .createVariable wanted => do
      let result ← createVariable network wanted
      some (.ok (.variable result.1), result.2)
  | .edit id (.addNode label operator inputs results) =>
      (addNode network id label operator inputs results).map (Outcome.map .node)
  | .edit id (.addLayer label layer) => (addLayer network id label layer).map (Outcome.map .node)
  | .edit id (.erase target) => (eraseTarget network id target).map (Outcome.map fun _ => .done)
  | .verify => (verifyEach settings network network.functions).map (Outcome.map fun _ => .done)
  | .verifyFunction id =>
      match network.function? id with
      | none => some (.error (.unknownFunction id), network)
      | some function => (verifyOne settings network function).map (Outcome.map fun _ => .done)
  | .writeDrawing path refused => do
      let drawing ← overview network
      some ((network.write .network (Network.drawingPath settings path Network.drawingFile) drawing.text
        refused).map .file)
  | .writeFunctionDrawing id path refused =>
      match network.function? id with
      | none => some (.error (.unknownFunction id), network)
      | some function => do
          let drawing ← drawing (network.scopeOf function)
          some ((network.write .function
            (Network.drawingPath settings path function.drawingFile) drawing.text
            refused).map .file)
  | action => some (network.perform settings action)

section Answers

variable (settings : Settings) (network : Network) (kept : network.Represented)

include kept

theorem perform_refines (action : Action)
    (issued : ∀ base dims, action = .reshape base dims → ∃ type, network.types.get? base = some type)
    (fits : (network.perform settings action).2.Fits) :
    perform settings network action = some (network.perform settings action) := by
  have indexed : ∀ id function, network.function? id = some function → function.Indexed :=
    fun id function found => kept.functions.indexed function (List.mem_of_getElem? found)
  cases action with
  | reshape base dims =>
      obtain ⟨type, known⟩ := issued base dims rfl
      simp [perform, Network.perform, TypePool.reshape?, known]
  | freshName requested =>
      rw [perform, fresh_name_refines network requested fits]
      rfl
  | cloneFunction source name =>
      rw [perform, clone_function_refines network source name (indexed source) fits]
      rfl
  | createVariable wanted =>
      rw [perform, create_variable_refines network wanted fits]
      rfl
  | edit id change =>
      cases change with
      | addNode label operator inputs results =>
          rw [perform, add_node_refines network id label operator inputs results (indexed id) fits]
          rfl
      | addLayer label layer =>
          rw [perform, add_layer_refines network id label layer (indexed id) fits]
          rfl
      | erase target =>
          rw [perform, erase_target_refines network id target (indexed id)]
          rfl
      | _ => rfl
  | verify =>
      rw [perform, verify_each_refines settings network kept.storage.typed network.functions
        kept.functions.indexed]
      rfl
  | verifyFunction id =>
      rw [perform, Network.perform, Network.verifyFunction]
      cases found : network.function? id with
      | none => rfl
      | some function =>
          dsimp only
          rw [verify_one_refines settings network kept.storage.typed function
            (indexed id function found)]
          rfl
  | writeDrawing path refused =>
      rw [perform, overview_refines network kept.storage.typed]
      rfl
  | writeFunctionDrawing id path refused =>
      rw [perform, Network.perform, Network.writeFunctionDrawing]
      cases found : network.function? id with
      | none => rfl
      | some function =>
          dsimp only
          rw [drawing_refines (network.scopeOf function) kept.storage.typed (indexed id function found)]
          rfl
  | _ => rfl

end Answers

end Strict

-- What can be read off a network without asking it to do anything: nodes by their numbers, on which
-- types of edges, walks and listings of functions rely, and the texts that show types of variables.
structure Network.Readable (network : Network) : Prop where
  nodes : ∀ function ∈ network.functions, ∀ id, Strict.node function id = some (function.node? id)
  drawings : ∀ function ∈ network.functions,
    Strict.drawing (network.scopeOf function) = some (network.scopeOf function).drawing
  dump : Strict.dump network = some network.dump
  overview : Strict.overview network = some network.drawing

theorem network_readable (network : Network) (kept : network.Represented) : network.Readable where
  nodes function member := Strict.node_refines function (kept.functions.indexed function member)
  drawings function member :=
    Strict.drawing_refines (network.scopeOf function) kept.storage.typed
      (kept.functions.indexed function member)
  dump := Strict.dump_refines network kept.storage.typed
  overview := Strict.overview_refines network kept.storage.typed

-- No request breaks off. With every unchecked step made to succeed or end it all, the answer is there,
-- and it is the one that the network gives.
theorem requests_are_answered (settings : Settings) (actions : List Action) (action : Action)
    (issued : ∀ base dims, action = .reshape base dims →
      ∃ type, (Network.run settings .empty actions).types.get? base = some type)
    (fits : ((Network.run settings .empty actions).perform settings action).2.Fits) :
    let network := Network.run settings .empty actions
    Strict.perform settings network action = some (network.perform settings action) ∧
      network.Readable := by
  have kept := run_represented settings .empty actions empty_represented
  exact ⟨Strict.perform_refines settings _ kept action issued fits, network_readable _ kept⟩

-- The verification of a raw product of nothing, next to a convolution.
theorem raw_product_is_answered :
    let actions : List Action :=
      [.createFunction "f", .createVariable ⟨.plain .float [1, 4, 4, 2], "x", .external, .none⟩,
      .edit ⟨0⟩ (.addLayer "c" (.convolution (.ofVariable ⟨0⟩) 3 ⟨3, 1, 1⟩)),
      .edit ⟨0⟩ (.addNode "m" .matMul [] [⟨0⟩])]
    let network := Network.run {} .empty actions
    (network.perform {} .verify).2.Fits ∧
      Strict.perform {} network .verify = some (network.perform {} .verify) ∧ network.Readable := by
  intro actions network
  have fits : (network.perform {} .verify).2.Fits :=
    ⟨by decide +kernel, by decide +kernel, by decide +kernel⟩
  exact ⟨fits, requests_are_answered {} actions .verify nofun fits⟩

end TensorGraph
