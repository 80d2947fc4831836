import TensorGraph.Proofs.Atomicity
import TensorGraph.Proofs.Origins
import TensorGraph.Proofs.Rewiring

set_option autoImplicit false

namespace TensorGraph

-- What a layer asks of the kinds of its operands when it is drafted, and of what it writes to.
structure Scope.Asks (scope : Scope) (draft : Draft) (types : List TensorType) : Prop where
  supplied : List.Forall₂ (scope.Supplies draft.parameters) draft.operands types
  elements : draft.operator.ElementsAsked types draft.results
  stored : ∀ (i : Nat) (operand : Operand), draft.operands[i]? = some operand →
    draft.operator.overwrites i = true →
    ∀ start, (operand.edge start).producer.isVariable = true

section Drafts

variable (scope : Scope) (label : String) (draft : Draft)

open Layer

-- Only a few layers ask anything of kinds or write to an operand; the types of the others are those that
-- the check saw.
theorem draft_asks (layer : Layer) (drafted : scope.draft label layer = .ok draft) :
    ∃ types, scope.Asks draft types := by
  have sound := (draft_sound scope label draft layer drafted).granted
  cases layer
  case concat inputs axis =>
    cases inputs with
    | nil => cases drafted
    | cons first rest =>
        simp only [Scope.draft, bind_ok_iff, some_unit_iff, operand_iff, require_ok_iff, stack_all_iff]
          at drafted
        obtain ⟨type, typed, _, total, ⟨types, others, agree, _⟩, ⟨⟩⟩ := drafted
        refine ⟨type :: types, .cons typed (List.forall₂_map_left_iff.mpr others), ?_, ?_⟩
        · exact fun other member => (agree other member).1
        · intro i operand _ overwrites
          cases overwrites
  all_goals
    simp only [Scope.draft, bind_ok_iff, some_unit_iff, operand_iff, require_ok_iff, expectShape,
      matrix_dims_iff, expect_int8_iff, Except.ok.injEq] at drafted
  case matMul lhs rhs =>
    obtain ⟨lhsType, lhsTyped, rhsType, rhsTyped, _, _, _, _, same, _, rfl⟩ := drafted
    refine ⟨[lhsType, rhsType], .cons lhsTyped (.cons rhsTyped .nil), same, ?_⟩
    intro i operand _ overwrites
    cases overwrites
  case save input =>
    obtain ⟨type, typed, rfl⟩ := drafted
    refine ⟨[type, type], .cons typed (.cons rfl .nil), trivial, ?_⟩
    intro i operand access overwrites start
    obtain rfl : i = 1 := by simpa [Operator.overwrites] using overwrites
    cases access
    rfl
  case saveTo input output =>
    obtain ⟨type, typed, outputType, outputTyped, _, rfl⟩ := drafted
    refine ⟨[type, outputType], .cons typed (.cons outputTyped .nil), trivial, ?_⟩
    intro i operand access overwrites start
    obtain rfl : i = 1 := by simpa [Operator.overwrites] using overwrites
    cases access
    rfl
  case quantizationProfile input =>
    obtain ⟨type, typed, rfl⟩ := drafted
    refine ⟨[type, .plain .float [profileBuckets], .plain .float [2]],
      .cons typed (.cons rfl (.cons rfl .nil)), trivial, ?_⟩
    intro i operand access overwrites start
    have written : i = 1 ∨ i = 2 := by simpa [Operator.overwrites] using overwrites
    rcases written with rfl | rfl
    · cases access
      rfl
    · cases access
      rfl
  case quantize input result =>
    obtain ⟨type, typed, float, ⟨⟨kind, scaled⟩, _⟩, rfl⟩ := drafted
    refine ⟨[type], .cons typed .nil, ⟨float, kind, scaled⟩, ?_⟩
    intro i operand _ overwrites
    cases overwrites
  case dequantize input =>
    obtain ⟨type, typed, kind, rfl⟩ := drafted
    refine ⟨[type], .cons typed .nil, kind, ?_⟩
    intro i operand _ overwrites
    cases overwrites
  case rescaleQuantized input result =>
    obtain ⟨type, typed, kind, ⟨⟨resultKind, scaled⟩, _⟩, rfl⟩ := drafted
    refine ⟨[type], .cons typed .nil, ⟨kind, resultKind, scaled⟩, ?_⟩
    intro i operand _ overwrites
    cases overwrites
  -- What is left of the others ends in an equation for the draft.
  all_goals
    obtain ⟨types, granted⟩ := sound.resolve_right (by rintro ⟨_, ⟨⟩, _⟩)
    repeat obtain ⟨_, drafted⟩ := drafted
    refine ⟨types, granted.supplied, trivial, ?_⟩
    intro i operand _ overwrites
    cases overwrites

end Drafts

section Built

variable (network next : Network) (id : FunctionId) (function : Function) (kept : network.Represented)

include kept

theorem asked_operands (draft : Draft) (node : Node) (operands types : List TensorType)
    (builds : network.Builds id function draft node operands next)
    (asks : (network.scopeOf function).Asks draft types) :
    types = operands := by
  have supplied : List.Forall₂ ((network.readyFor draft).scopeOf function).Yields node.inputs types := by
    rw [builds.inputs]
    exact List.forall₂_map_left_iff.mpr (asks.supplied.imp (supplied_yields network kept function draft))
  have typed : List.Forall₂ ((network.readyFor draft).scopeOf function).Yields node.inputs operands :=
    builds.typed.imp fun edge type => (type_of_iff _ edge type).mp
  exact (yields_unique _).forall₂ supplied typed

theorem built_node_accounts (draft : Draft) (made : NodeId)
    (built : network.build id function draft = (.ok made, next))
    (found : network.function? id = some function) (types : List TensorType)
    (asks : (network.scopeOf function).Asks draft types) : Origins.Accounts
    { built := [made] } next := by
  obtain ⟨node, operands, rfl, builds⟩ := build_done network next id function draft made built kept
  obtain rfl := asked_operands network next id function kept draft node operands types builds asks
  have readyKept := changes_represented .verify _ _ (ready_changes .verify network draft) kept
  have stillFound := (ready_function network draft id).trans found
  obtain ⟨continues, _⟩ :=
    added_node_continues .verify (network.readyFor draft) next id function node draft.label
      builds.adds readyKept
  obtain ⟨earlier, recalled⟩ :=
    added_node_recalls (network.readyFor draft) next id function node draft.label builds.adds
    readyKept stillFound types builds.typed
  refine ⟨?_, ?_⟩
  · intro other listed
    rw [List.mem_singleton.mp listed, builds.adds.number, builds.adds.result]
    exact Nat.lt_succ_self _
  · intro after member other inside listed
    obtain ⟨rfl, old, before, rfl⟩ :=
      added_node_place (network.readyFor draft) next id node draft.label builds.adds readyKept
      after member other inside (List.mem_singleton.mp listed)
    obtain rfl : function = old := Option.some.inj (stillFound.symm.trans before)
    refine ⟨types, draft.results, recalled.length_eq.symm, ?_, ?_, ?_⟩
    · exact builds.known.imp fun handle type => continues.types handle type
    · rw [builds.operator]
      exact asks.elements
    · intro i edge type access typed _
      obtain ⟨_, again, recalls⟩ := related_at _ _ _ recalled i type typed
      obtain rfl := Option.some.inj (access.symm.trans again)
      refine ⟨earlier edge (List.mem_of_getElem? access), recalls, ?_⟩
      rw [builds.operator]
      rw [builds.inputs, List.getElem?_map, Option.map_eq_some_iff] at access
      obtain ⟨operand, given, rfl⟩ := access
      exact fun overwrites => asks.stored i operand given overwrites network.nextVariable

end Built

theorem added_layer_accounts (network next : Network) (id : FunctionId) (label : String)
    (layer : Layer) (made : NodeId) (added : network.addLayer id label layer = (.ok made, next))
    (kept : network.Represented) :
    Origins.Accounts { built := [made] } next := by
  obtain ⟨function, draft, found, drafted, built⟩ :=
    added_layer_built network next id label layer made added
  obtain ⟨types, asks⟩ := draft_asks (network.scopeOf function) label draft layer drafted
  exact built_node_accounts network next id function kept draft made built found types asks

theorem cloned_function_accounts (network next : Network) (source : FunctionId) (name : String)
    (id : FunctionId) (mapping : NodeMapping)
    (done : network.cloneFunction source name = (.ok (id, mapping), next))
    (kept : network.Represented) (nextKept : next.Represented) (origins : Origins)
    (accounts : origins.Accounts network) :
    (origins.copied mapping).Accounts next := by
  obtain ⟨cloned, copy, found, made, _, step⟩ := clone_step network kept source name id mapping next done
  exact copied_nodes_account origins mapping network next cloned copy step kept nextKept
    (List.mem_of_getElem? found) (List.mem_of_getElem? made) accounts

theorem gained_accounts (settings : Settings) (network next : Network) (action : Action) (reply : Reply)
    (performed : network.perform settings action = (.ok reply, next)) (kept : network.Represented)
    (nextKept : next.Represented) (unedited : action.edited? = none) (origins : Origins)
    (accounts : origins.Accounts network) : (origins.gained action reply).Accounts next := by
  unfold Origins.gained
  split
  · rename_i id label layer made
    obtain ⟨node, added, same⟩ := outcome_map_ok _ _ _ _ performed
    obtain rfl := Reply.node.inj same
    exact added_layer_accounts network next id label layer node added kept
  · cases unedited
  · rename_i source name id mapping
    obtain ⟨answer, done, same⟩ := outcome_map_ok _ _ _ _ performed
    obtain ⟨rfl, rfl⟩ := Reply.clone.inj same
    exact cloned_function_accounts network next source name answer.1 answer.2 done kept nextKept
      origins accounts
  · exact nothing_accounts next []

theorem answered_step_accounts (settings : Settings) (network next : Network) (action : Action)
    (reply : Reply) (performed : network.perform settings action = (.ok reply, next))
    (kept : network.Represented) (nextKept : next.Represented) (origins : Origins)
    (accounts : origins.Accounts network) :
    ((origins.gained action reply).joined origins).Accounts next := by
  by_cases unedited : action.edited? = none
  · have changes := perform_changes settings network action
    rw [performed] at changes
    exact joined_accounts _ _ next (gained_accounts settings network next action reply performed kept
      nextKept unedited origins accounts)
      (changes_account action network next changes kept unedited origins accounts)
  · exact answered_edit_accounts settings network next action reply performed unedited kept
      origins accounts

theorem failed_step_accounts (settings : Settings) (network next : Network) (action : Action)
    (fault : GraphFault) (failed : network.perform settings action = (.error fault, next))
    (kept : network.Represented) (origins : Origins)
    (accounts : origins.Accounts network) : origins.Accounts next := by
  by_cases unedited : action.edited? = none
  · have changes := perform_changes settings network action
    rw [failed] at changes
    exact changes_account action network next changes kept unedited origins accounts
  · rw [failed_touch_unchanged settings network next action fault failed (.inl unedited)]
    exact accounts

theorem run_accounts (settings : Settings) (network : Network) (origins : Origins)
    (actions : List Action) (kept : network.Represented) (accounts : origins.Accounts network) :
    (Origins.ofRun settings network origins actions).Accounts (network.run settings actions) := by
  induction actions generalizing network origins with
  | nil => exact accounts
  | cons action rest ih =>
      have nextKept := changes_represented action _ _ (perform_changes settings network action) kept
      rw [Origins.ofRun, Network.run, List.foldl_cons]
      split
      · rename_i reply next performed
        rw [performed] at nextKept ⊢
        exact ih next _ nextKept (answered_step_accounts settings network next action reply performed
          kept nextKept origins accounts)
      · rename_i fault next failed
        rw [failed] at nextKept ⊢
        exact ih next origins nextKept
          (failed_step_accounts settings network next action fault failed kept origins accounts)

section Verified

variable (scope : Scope) (limit : Nat) (kept : VariablesKept scope.storage scope.types limit)
  (indexed : scope.function.Indexed)

theorem led_producer_held (edge : Edge) (leads : scope.Leads edge) : scope.Holds edge.producer := by
  obtain ⟨producer, slot⟩ := edge
  cases producer with
  | var id => exact leads.2
  | node id =>
      obtain ⟨node, inside, same, _⟩ := leads
      exact ⟨node, inside, same⟩

include kept indexed

theorem recalled_type_yields (edge : Edge) (type : TensorType) (leads : scope.Leads edge)
    (recalls : scope.Recalls edge type) :
    scope.Yields edge type := by
  obtain ⟨_, carries⟩ := recalled_edge scope edge type recalls (led_producer_held scope edge leads)
  exact carried_yields scope limit kept indexed edge type leads carries

theorem spared_types_agree (inputs : List Edge) (asked operands : List TensorType)
    (count : asked.length = inputs.length) (leads : ∀ edge ∈ inputs, scope.Leads edge)
    (typed : List.Forall₂ scope.Yields inputs operands) (i : Nat)
    (recalls : ∀ edge type, inputs[i]? = some edge → asked[i]? = some type → scope.Recalls edge type) :
    asked[i]? = operands[i]? := by
  have sameLength := count.trans typed.length_eq
  by_cases below : i < asked.length
  · have beneath : i < operands.length := sameLength ▸ below
    have access := List.getElem?_eq_getElem beneath
    obtain ⟨edge, read, yields⟩ := related_at _ _ _ typed i _ access
    have recalled := recalls edge asked[i] read (List.getElem?_eq_getElem below)
    have again := recalled_type_yields scope limit kept indexed edge _
      (leads edge (List.mem_of_getElem? read)) recalled
    rw [access, List.getElem?_eq_getElem below, yields_unique scope again yields]
  · have beyond : operands.length ≤ i := sameLength ▸ Nat.le_of_not_lt below
    rw [List.getElem?_eq_none (Nat.le_of_not_lt below), List.getElem?_eq_none beyond]

end Verified

-- What the builder of a node asks besides shapes: the kinds of its operands and results, and variables
-- to write to.
structure Scope.MeetsDemands (scope : Scope) (node : Node) : Prop where
  kinds : ∃ operands results, List.Forall₂ scope.Yields node.inputs operands ∧
    List.Forall₂ (fun handle type => scope.types.get? handle = some type) node.results results ∧
    node.operator.ElementsAsked operands results ∧ node.operator.ElementsAgree operands results
  destinations : ∀ (i : Nat) (edge : Edge), node.inputs[i]? = some edge →
    node.operator.overwrites i = true →
    ∃ v ∈ scope.storage, edge = .ofVariable v.id

theorem known_results_unique (types : TypePool) (handles : List TypeHandle)
    (first second : List TensorType)
    (known : List.Forall₂ (fun handle type => types.get? handle = some type) handles first)
    (again : List.Forall₂ (fun handle type => types.get? handle = some type) handles second) :
      first = second := by
  refine Relator.RightUnique.forall₂ ?_ known again
  intro handle type other found same
  exact Option.some.inj (found.symm.trans same)

-- A node that a layer brought, or a copy of such a node, keeps what its builder asked of every input
-- that was not set since. Verification restores of the others what its own check asks, and no more.
theorem verified_nodes_meet_spared_demands (settings : Settings) (actions : List Action)
    (id : FunctionId) (function : Function) (node : Node)
    (found : (Network.run settings .empty actions).function? id = some function)
    (verified : ((Network.run settings .empty actions).verifyFunction settings id).1 = .ok ())
    (inside : node ∈ function.nodes)
    (built : node.id ∈ (Origins.ofRun settings .empty {} actions).built) :
    let scope := (Network.run settings .empty actions).scopeOf function
    let origins := Origins.ofRun settings .empty {} actions
    ((∀ i, origins.Spares node.id i) → scope.MeetsDemands node) ∧
    (∃ operands results asked, List.Forall₂ scope.Yields node.inputs operands ∧
      List.Forall₂ (fun handle type => scope.types.get? handle = some type) node.results results ∧
      node.operator.ElementsAgree operands results ∧ asked.length = operands.length ∧
      node.operator.ElementsAsked asked results ∧ ∀ i, origins.Spares node.id i →
        asked[i]? = operands[i]?) ∧
    ∀ i edge, node.inputs[i]? = some edge → origins.Spares node.id i →
      node.operator.overwrites i = true →
      ∃ v ∈ scope.storage, edge = .ofVariable v.id := by
  intro scope origins
  have kept := run_represented settings .empty actions empty_represented
  have accounts := run_accounts settings .empty {} actions empty_represented (nothing_accounts .empty [])
  have member := List.mem_of_getElem? found
  have indexed := kept.functions.indexed function member
  rw [Network.verifyFunction, found] at verified
  have sound := (verify_scope_iff scope _ kept.storage indexed).mp
    ((verify_one_iff settings _ function).mp verified)
  obtain ⟨operands, results, carried, known, checked⟩ := (sound.nodes node inside).accepted
  obtain ⟨_, agree⟩ := (check_iff node.operator operands results).mp checked
  have leads : ∀ edge ∈ node.inputs, scope.Leads edge := fun edge reads =>
    sound.edges node inside edge (List.mem_append_left _ reads)
  have typed : List.Forall₂ scope.Yields node.inputs operands :=
    ((List.forall₂_and_left _ _).mpr ⟨leads, carried⟩).imp fun edge type both =>
      carried_yields scope _ kept.storage indexed edge type both.1 both.2
  obtain ⟨asked, others, count, knownOthers, demanded, left⟩ :=
    accounts.demands function member node inside built
  obtain rfl := known_results_unique scope.types node.results others results knownOthers known
  have spared : ∀ i, origins.Spares node.id i → asked[i]? = operands[i]? := by
    intro i spares
    refine spared_types_agree scope _ kept.storage indexed node.inputs asked operands count
      leads typed i ?_
    exact fun edge type access given => (left i edge type access given spares).recalled
  have destinations : ∀ i edge, node.inputs[i]? = some edge → origins.Spares node.id i →
      node.operator.overwrites i = true → ∃ v ∈ scope.storage, edge = .ofVariable v.id := by
    intro i edge access spares overwrites
    obtain ⟨below, _⟩ := List.getElem?_eq_some_iff.mp access
    have given := List.getElem?_eq_getElem (count ▸ below : i < asked.length)
    have stored := (left i edge _ access given spares).stored overwrites
    have leading := leads edge (List.mem_of_getElem? access)
    obtain ⟨producer, slot⟩ := edge
    cases producer with
    | node target => cases stored
    | var target =>
        obtain ⟨rfl, v, live, rfl⟩ := leading
        exact ⟨v, live, rfl⟩
  refine ⟨?_, ⟨operands, others, asked, typed, known, agree, count.trans typed.length_eq, demanded,
    spared⟩, destinations⟩
  intro all
  have same : asked = operands := List.ext_getElem? fun i => spared i (all i)
  refine ⟨⟨operands, others, typed, known, same ▸ demanded, agree⟩, ?_⟩
  exact fun i edge access => destinations i edge access (all i)

-- The copy of a saving node whose original was left alone, next to the copy of a rewired conversion.
theorem spared_copy_meets_demands :
    let actions : List Action :=
      [.createFunction "f", .createVariable ⟨.plain .float [2], "x", .external, .none⟩,
      .createVariable ⟨.plain .float16 [2], "h", .external, .none⟩,
      .edit ⟨0⟩ (.addLayer "n" (.quantize (.ofVariable ⟨0⟩) (.quantized .int8Q [2] ⟨0x3f000000⟩ 2))),
      .edit ⟨0⟩ (.addLayer "s" (.save (.ofVariable ⟨0⟩))), .edit ⟨0⟩ (.setInput ⟨0⟩ 0 (.ofVariable ⟨1⟩)),
      .cloneFunction ⟨0⟩ "g"]
    let network := Network.run {} .empty actions
    let node : Node := ⟨⟨3⟩, "_save_s__4", .save, [.ofVariable ⟨0⟩, .ofVariable ⟨2⟩], [⟨3⟩], none⟩
    ∃ function, network.function? ⟨1⟩ = some function ∧ node ∈ function.nodes ∧
      (network.verifyFunction {} ⟨1⟩).1 = .ok () ∧ node.id ∈ (Origins.ofRun {} .empty {} actions).built ∧
      (network.scopeOf function).MeetsDemands node := by
  intro actions network node
  have listed : ∀ function ∈ network.function? ⟨1⟩, node ∈ function.nodes := by decide +kernel
  have verified : (network.verifyFunction {} ⟨1⟩).1 = .ok () := by decide +kernel
  have built : node.id ∈ (Origins.ofRun {} .empty {} actions).built := by decide +kernel
  have rewired : (Origins.ofRun {} .empty {} actions).rewired = [(⟨2⟩, 0), (⟨0⟩, 0)] := by decide +kernel
  obtain ⟨function, found⟩ : ∃ function, network.function? ⟨1⟩ = some function :=
    Option.isSome_iff_exists.mp (by decide +kernel)
  obtain ⟨demands, _⟩ := verified_nodes_meet_spared_demands {} actions ⟨1⟩ function node found verified
    (listed function found) built
  refine ⟨function, found, listed function found, verified, built, demands fun i => ?_⟩
  rw [Origins.Spares, rewired]
  simp [node]

section Broken

variable (scope : Scope) (node : Node)

theorem unlike_kinds_fail (operands results : List TensorType)
    (typed : List.Forall₂ scope.Yields node.inputs operands)
    (known : List.Forall₂ (fun handle type => scope.types.get? handle = some type) node.results results)
    (unlike : ¬ node.operator.ElementsAsked operands results) : ¬ scope.MeetsDemands node := by
  intro meets
  obtain ⟨others, again, typedOthers, knownAgain, asked, _⟩ := meets.kinds
  obtain rfl := (yields_unique scope).forall₂ typed typedOthers
  obtain rfl := known_results_unique scope.types node.results results again known knownAgain
  exact unlike asked

theorem node_destination_fails (i : Nat) (id : NodeId) (access : node.inputs[i]? = some (.ofNode id))
    (overwrites : node.operator.overwrites i = true) : ¬ scope.MeetsDemands node := by
  intro meets
  obtain ⟨v, _, same⟩ := meets.destinations i _ access overwrites
  cases same

end Broken

-- One input or destination of each node is set to something that its builder refuses, and all of it
-- verifies.
theorem rewired_kinds_verify :
    let actions : List Action :=
      [.createFunction "f", .createVariable ⟨.plain .float [2, 2], "x", .external, .none⟩,
      .createVariable ⟨.plain .index [2, 2], "y", .external, .none⟩,
      .createVariable ⟨.plain .float [2], "u", .external, .none⟩,
      .createVariable ⟨.plain .float16 [2], "h", .external, .none⟩,
      .createVariable ⟨.quantized .int8Q [2] ⟨0x3f000000⟩ 2, "q", .external, .none⟩,
      .createVariable ⟨.quantized .int32Q [2] ⟨0x3f000000⟩ 2, "w", .external, .none⟩,
      .edit ⟨0⟩ (.addLayer "c" (.concat [.ofVariable ⟨0⟩, .ofVariable ⟨0⟩] 0)),
      .edit ⟨0⟩ (.addLayer "m" (.matMul (.ofVariable ⟨0⟩) (.ofVariable ⟨0⟩))),
      .edit ⟨0⟩ (.addLayer "n" (.quantize (.ofVariable ⟨2⟩) (.quantized .int8Q [2] ⟨0x3f000000⟩ 2))),
      .edit ⟨0⟩ (.addLayer "d" (.dequantize (.ofVariable ⟨4⟩))),
      .edit ⟨0⟩ (.addLayer "r" (.rescaleQuantized (.ofVariable ⟨4⟩)
        (.quantized .int8Q [2] ⟨0x3f000000⟩ 2))),
      .edit ⟨0⟩ (.addLayer "s" (.save (.ofVariable ⟨0⟩))),
      .edit ⟨0⟩ (.addLayer "p" (.quantizationProfile (.ofVariable ⟨2⟩))),
      .edit ⟨0⟩ (.setInput ⟨0⟩ 1 (.ofVariable ⟨1⟩)), .edit ⟨0⟩ (.setInput ⟨1⟩ 1 (.ofVariable ⟨1⟩)),
      .edit ⟨0⟩ (.setInput ⟨2⟩ 0 (.ofVariable ⟨3⟩)), .edit ⟨0⟩ (.setInput ⟨3⟩ 0 (.ofVariable ⟨5⟩)),
      .edit ⟨0⟩ (.setInput ⟨4⟩ 0 (.ofVariable ⟨5⟩)), .edit ⟨0⟩ (.setInput ⟨5⟩ 1 (.ofNode ⟨1⟩)),
      .edit ⟨0⟩ (.setInput ⟨6⟩ 1 (.ofNode ⟨2⟩)), .edit ⟨0⟩ (.setInput ⟨6⟩ 2 (.ofNode ⟨2⟩))]
    let network := Network.run {} .empty actions
    (network.verifyFunction {} ⟨0⟩).1 = .ok () ∧ ∃ function, network.function? ⟨0⟩ = some function ∧
      (∀ node ∈ function.nodes, node.id ∈ (Origins.ofRun {} .empty {} actions).built) ∧
      function.nodes.map (fun node => node.operator) =
        [.concat 0, .matMul, .quantize, .dequantize, .rescaleQuantized, .save,
          .quantizationProfile "u__2"] ∧
      ∀ node ∈ function.nodes, ¬ (network.scopeOf function).MeetsDemands node := by
  intro actions network
  let nodes : List Node := [⟨⟨0⟩, "c__6", .concat 0, [.ofVariable ⟨0⟩, .ofVariable ⟨1⟩], [⟨6⟩], none⟩,
    ⟨⟨1⟩, "m__7", .matMul, [.ofVariable ⟨0⟩, .ofVariable ⟨1⟩], [⟨0⟩], none⟩,
    ⟨⟨2⟩, "n__8", .quantize, [.ofVariable ⟨3⟩], [⟨4⟩], none⟩,
    ⟨⟨3⟩, "d__9", .dequantize, [.ofVariable ⟨5⟩], [⟨2⟩], none⟩,
    ⟨⟨4⟩, "r__10", .rescaleQuantized, [.ofVariable ⟨5⟩], [⟨4⟩], none⟩,
    ⟨⟨5⟩, "_save_s__12", .save, [.ofVariable ⟨0⟩, .ofNode ⟨1⟩], [⟨7⟩], none⟩,
    ⟨⟨6⟩, "p__15", .quantizationProfile "u__2",
      [.ofVariable ⟨2⟩, .ofNode ⟨2⟩, .ofNode ⟨2⟩], [⟨7⟩], none⟩]
  let function : Function := {
    id := ⟨0⟩, name := "f", nodes := nodes
    positions := [(⟨6⟩, 6), (⟨5⟩, 5), (⟨4⟩, 4), (⟨3⟩, 3), (⟨2⟩, 2), (⟨1⟩, 1), (⟨0⟩, 0)] }
  have found : network.function? ⟨0⟩ = some function := by decide +kernel
  have built : ∀ node ∈ function.nodes, node.id ∈ (Origins.ofRun {} .empty {} actions).built := by
    decide +kernel
  have verified : (network.verifyFunction {} ⟨0⟩).1 = .ok () := by decide +kernel
  have floats : (network.scopeOf function).Yields (.ofVariable ⟨0⟩) (.plain .float [2, 2]) :=
    ⟨⟨0⟩, by decide +kernel, by decide +kernel⟩
  have indices : (network.scopeOf function).Yields (.ofVariable ⟨1⟩) (.plain .index [2, 2]) :=
    ⟨⟨1⟩, by decide +kernel, by decide +kernel⟩
  have halves : (network.scopeOf function).Yields (.ofVariable ⟨3⟩) (.plain .float16 [2]) :=
    ⟨⟨3⟩, by decide +kernel, by decide +kernel⟩
  have words : (network.scopeOf function).Yields (.ofVariable ⟨5⟩)
      (.quantized .int32Q [2] ⟨0x3f000000⟩ 2) :=
    ⟨⟨5⟩, by decide +kernel, by decide +kernel⟩
  have stacked : network.types.get? ⟨6⟩ = some (.plain .float [4, 2]) := by decide +kernel
  have square : network.types.get? ⟨0⟩ = some (.plain .float [2, 2]) := by decide +kernel
  have pair : network.types.get? ⟨2⟩ = some (.plain .float [2]) := by decide +kernel
  have bytes : network.types.get? ⟨4⟩ = some (.quantized .int8Q [2] ⟨0x3f000000⟩ 2) := by decide +kernel
  clear_value network
  refine ⟨verified, function, found, built, rfl, ?_⟩
  simp only [function, nodes, List.forall_mem_cons, List.not_mem_nil, false_imp_iff,
    implies_true, and_true]
  refine ⟨?_, ?_, ?_, ?_, ?_, ?_, ?_⟩
  · refine unlike_kinds_fail _ _ _ _ (.cons floats (.cons indices .nil)) (.cons stacked .nil) ?_
    intro alike
    cases alike _ (List.mem_singleton_self _)
  · exact unlike_kinds_fail _ _ _ _ (.cons floats (.cons indices .nil)) (.cons square .nil) nofun
  · exact unlike_kinds_fail _ _ _ _ (.cons halves .nil) (.cons bytes .nil) fun asked => nomatch asked.1
  · exact unlike_kinds_fail _ _ _ _ (.cons words .nil) (.cons pair .nil) nofun
  · exact unlike_kinds_fail _ _ _ _ (.cons words .nil) (.cons bytes .nil) fun asked => nomatch asked.1
  · exact node_destination_fails _ _ 1 ⟨1⟩ rfl rfl
  · exact node_destination_fails _ _ 1 ⟨2⟩ rfl rfl

end TensorGraph
