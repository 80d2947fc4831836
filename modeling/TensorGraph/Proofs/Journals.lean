import TensorGraph.Proofs.Announcements
import TensorGraph.Proofs.PoolContents

set_option autoImplicit false

namespace TensorGraph

-- The functions that an action verifies, in order, up to the first that fails.
def Action.verified? (network : Network) : Action → Option (List Function)
  | .verify => some network.functions
  | .verifyFunction id => (network.function? id).map fun function => [function]
  | _ => none

-- The events that an action can be the cause of.
def Action.mayLog : Action → Event → Bool
  | .createFunction _, .createdFunction _ => true
  | .cloneFunction _ _, .clonedFunction _ _ _ => true
  | .createVariable _, .createdVariable _ _ _ => true
  | .edit _ (.addLayer _ _), .createdVariable _ _ _ => true
  | .eraseVariable _, .erasedVariable _ => true
  | .edit _ (.erase (.var _)), .erasedVariable _ => true
  | .edit _ (.erase (.node _)), .erasedNode _ _ => true
  | .verify, .verificationFailed _ _ => true
  | .verify, .functionDump _ _ => true
  | .verifyFunction _, .verificationFailed _ _ => true
  | .verifyFunction _, .functionDump _ _ => true
  | .writeDrawing _ _, .wroteGraph _ _ => true
  | .writeFunctionDrawing _ _ _, .wroteGraph _ _ => true
  | _, _ => false

-- The outcome of verifying functions one after the other, and the failures that are reported.
inductive Network.Judges (network : Network) (functions : List Function) :
    Except GraphFault Reply → List (String × String) → Prop where
  | accepted (all : ∀ function ∈ functions, (network.scopeOf function).verify = .ok ()) :
      Judges network functions (.ok .done) []
  | rejected (passed : List Function) (function : Function) (later : List Function) (found : Violation)
      (split : functions = passed ++ function :: later)
      (earlier : ∀ other ∈ passed, (network.scopeOf other).verify = .ok ())
      (fails : (network.scopeOf function).verify = .error found) :
      Judges network functions (.error (.violation found))
        [(function.name, (GraphFault.violation found).message)]

-- What the events that an action adds to the journal say about it.
structure Network.Tells (network : Network) (action : Action) (result : Except GraphFault Reply)
    (events : List Event) :
    Prop where
  origin : ∀ event ∈ events, action.mayLog event = true
  clone : ∀ source name reply, action = .cloneFunction source name → result = .ok reply → ∃ cloned,
    network.function? source = some cloned ∧ events = [.clonedFunction cloned.name name cloned.size]
  erasure : ∀ id target reply, action = .edit id (.erase (.node target)) → result = .ok reply →
    ∃ function node,
    network.function? id = some function ∧ function.node? target = some node ∧
      events = [.erasedNode function.name node.name]
  verdict : ∀ functions, action.verified? network = some functions →
    network.Judges functions result (events.filterMap Event.failure?)
  failure : ∀ fault, result = .error fault → ∀ event ∈ events, event.isChange = false

section Tells

variable (network : Network) (action : Action)

theorem failure_tells (fault : GraphFault) (unverified : action.verified? network = none) :
    network.Tells action (.error fault) [] := by
  refine ⟨by simp, nofun, nofun, ?_, by simp⟩
  intro functions verified
  cases unverified.symm.trans verified

theorem plain_tells (result : Except GraphFault Reply) (events : List Event)
    (uncloned : action.cloned? = none) (keepsNodes : action.erased?.bind Producer.nodeId? = none)
    (unverified : action.verified? network = none)
    (origin : ∀ event ∈ events, action.mayLog event = true)
    (failure : ∀ fault, result = .error fault → events = []) : network.Tells action result events := by
  refine ⟨origin, ?_, ?_, ?_, ?_⟩
  · rintro source name reply rfl
    cases uncloned
  · rintro id target reply rfl
    cases keepsNodes
  · intro functions verified
    cases unverified.symm.trans verified
  · intro fault failed event listed
    rw [failure fault failed] at listed
    cases listed

theorem failure_events_told (settings : Settings) (function : Function) (found : Violation) :
    (Network.failureEvents settings (network.scopeOf function) found).filterMap Event.failure? =
      [(function.name, (GraphFault.violation found).message)] ∧
    ∀ event ∈ Network.failureEvents settings (network.scopeOf function) found,
      event.isChange = false ∧ Action.mayLog .verify event = true := by
  rw [Network.failureEvents]
  split
  · exact ⟨rfl, by simp [Event.isChange, Action.mayLog]⟩
  · exact ⟨rfl, by simp [Event.isChange, Action.mayLog]⟩

theorem judges_after_pass (function : Function) (rest : List Function) (result : Except GraphFault Reply)
    (failures : List (String × String)) (passed : (network.scopeOf function).verify = .ok ())
    (judges : network.Judges rest result failures) :
    network.Judges (function :: rest) result failures := by
  cases judges with
  | accepted all => exact .accepted (List.forall_mem_cons.mpr ⟨passed, all⟩)
  | rejected before other later found split earlier fails =>
      exact .rejected (function :: before) other later found (congrArg (function :: ·) split)
        (List.forall_mem_cons.mpr ⟨passed, earlier⟩) fails

theorem verify_each_told (settings : Settings) (functions : List Function) : ∃ events,
    network.Recounts events (network.verifyEach settings functions).2 ∧
    network.Judges functions (Except.map (fun _ => Reply.done) (network.verifyEach settings functions).1)
      (events.filterMap Event.failure?) ∧
    ∀ event ∈ events, event.isChange = false ∧ Action.mayLog .verify event = true := by
  induction functions with
  | nil => exact ⟨[], silent_recount network network (kept_names_refl network) rfl,
      .accepted (by simp), by simp⟩
  | cons function rest ih =>
      rw [Network.verifyEach, Network.verifyOne]
      cases outcome : (network.scopeOf function).verify with
      | ok passed =>
          obtain ⟨events, recounts, judges, told⟩ := ih
          exact ⟨events, recounts, judges_after_pass network function rest _ _ outcome judges, told⟩
      | error found =>
          obtain ⟨failures, told⟩ := failure_events_told network settings function found
          refine ⟨Network.failureEvents settings (network.scopeOf function) found, ?_, ?_, told⟩
          · exact unchanged_recount network _ _ ⟨rfl, rfl, Nat.le_refl _⟩ rfl fun event listed =>
              (told event listed).1
          · rw [failures]
            exact .rejected [] function rest found rfl (by simp) outcome

theorem verified_tells (settings : Settings) (functions : List Function) (outcome : Outcome Reply)
    (verifies : action.verified? network = some functions)
    (logs : ∀ event, Action.mayLog .verify event = true → action.mayLog event = true)
    (performed : outcome = (network.verifyEach settings functions).map fun _ => .done) :
    ∃ events, network.Recounts events outcome.2 ∧ network.Tells action outcome.1 events := by
  obtain ⟨events, recounts, judges, told⟩ := verify_each_told network settings functions
  rw [performed]
  refine ⟨events, recounts, fun event listed => logs event (told event listed).2, ?_, ?_, ?_, ?_⟩
  · rintro source name reply rfl
    cases verifies
  · rintro id target reply rfl
    cases verifies
  · intro others again
    cases verifies.symm.trans again
    exact judges
  · exact fun _ _ event listed => (told event listed).1

theorem single_verification (settings : Settings) (function : Function) :
    network.verifyEach settings [function] = network.verifyOne settings function := by
  rw [Network.verifyEach, Network.verifyOne]
  split
  · rename_i passed
    split at passed
    · cases passed
      rfl
    · cases passed
  · rename_i failed
    exact failed.symm

end Tells

section Performed

variable (network : Network)

theorem quiet_tells (action : Action) (outcome : Outcome Reply)
    (recounts : network.Recounts [] outcome.2) (uncloned : action.cloned? = none)
    (keepsNodes : action.erased?.bind Producer.nodeId? = none)
    (unverified : action.verified? network = none) :
    ∃ events, network.Recounts events outcome.2 ∧ network.Tells action outcome.1 events :=
  ⟨[], recounts, plain_tells network action outcome.1 [] uncloned keepsNodes unverified (by simp)
    fun _ _ => rfl⟩

theorem unmoved_recount : network.Recounts [] network :=
  silent_recount network network (kept_names_refl network) rfl

theorem write_tells (action : Action) (subject : Subject) (path contents : String)
    (refused : Option WriteFault) (uncloned : action.cloned? = none)
    (keepsNodes : action.erased?.bind Producer.nodeId? = none)
    (unverified : action.verified? network = none)
    (logs : action.mayLog (.wroteGraph subject path) = true) : ∃ events,
    network.Recounts events (network.write subject path contents refused).2 ∧
      network.Tells action (Except.map Reply.file
        (network.write subject path contents refused).1) events := by
  cases refused with
  | some cause => exact ⟨[], unmoved_recount network, failure_tells network action _ unverified⟩
  | none =>
      refine ⟨[.wroteGraph subject path], ?_, ?_⟩
      · exact unchanged_recount network _ _ ⟨rfl, rfl, Nat.le_refl _⟩ rfl (by simp [Event.isChange])
      · refine plain_tells network action _ _ uncloned keepsNodes unverified (by simp [logs]) ?_
        intro fault failed
        cases failed

theorem set_payload_keeps_names (id : VariableId) (payload : Option (List UInt8)) :
    network.KeepsNames (network.setPayload id payload).2 ∧
      (network.setPayload id payload).2.journal = network.journal := by
  rw [Network.setPayload]
  split
  · have named : (network.storage.setPayload id payload).values.map Variable.name =
        network.storage.values.map Variable.name := by
      rw [Variables.values, Variables.values, Variables.setPayload, List.map_map,
        List.map_map, List.map_map]
      refine List.map_congr_left fun entry _ => ?_
      simp only [Function.comp_apply]
      split
      · rfl
      · rfl
    exact ⟨⟨named, rfl, Nat.le_refl _⟩, rfl⟩
  · exact ⟨kept_names_refl network, rfl⟩

theorem create_function_tells (name : String) :
    ∃ events, network.Recounts events (network.createFunction name).2 ∧
    network.Tells (.createFunction name)
      (Except.map Reply.function (network.createFunction name).1) events := by
  cases performed : network.createFunction name with
  | mk result next =>
      cases result with
      | ok created =>
          refine ⟨[.createdFunction name],
            create_function_recounts network next name created performed, ?_⟩
          refine plain_tells network _ _ _ rfl rfl rfl (by simp [Action.mayLog]) ?_
          intro fault failed
          cases failed
      | error fault =>
          rw [Network.createFunction] at performed
          split at performed
          · cases performed
            exact ⟨[], unmoved_recount network, failure_tells network _ _ rfl⟩
          · cases performed

theorem clone_function_tells (source : FunctionId) (name : String) : ∃ events,
    network.Recounts events (network.cloneFunction source name).2 ∧
      network.Tells (.cloneFunction source name)
        (Except.map (fun answer => Reply.clone answer.1 answer.2)
          (network.cloneFunction source name).1) events := by
  cases performed : network.cloneFunction source name with
  | mk result next =>
      cases result with
      | ok answer =>
          obtain ⟨cloned, found, recounts⟩ :=
            clone_function_recounts network next source name answer performed
          refine ⟨_, recounts, by simp [Action.mayLog], ?_, ?_, ?_, ?_⟩
          · intro _ _ _ same _
            cases same
            exact ⟨cloned, found, rfl⟩
          · intro _ _ _ same _
            cases same
          · intro functions verified
            cases verified
          · intro fault failed
            cases failed
      | error fault =>
          refine ⟨[], ?_, failure_tells network _ _ rfl⟩
          rcases clone_cases network source name
            with ⟨_, failed⟩ | ⟨_, count, failed⟩ | ⟨_, _, _, _, _, _, done⟩
          · cases performed.symm.trans failed
            exact unmoved_recount network
          · cases performed.symm.trans failed
            exact silent_recount network _ ⟨rfl, rfl, Nat.le_refl _⟩ rfl
          · cases performed.symm.trans done

theorem create_variable_tells (wanted : Parameter) : ∃ events,
    network.Recounts events (network.createVariable wanted).2 ∧
      network.Tells (.createVariable wanted)
        (.ok (.variable (network.createVariable wanted).1)) events := by
  obtain ⟨created, recounts⟩ := create_variables_recount network [wanted]
  refine ⟨_, recounts, plain_tells network _ _ _ rfl rfl rfl ?_ ?_⟩
  · intro event listed
    obtain ⟨v, _, rfl⟩ := List.mem_map.mp listed
    rfl
  · intro fault failed
    cases failed

theorem edit_node_tells {α : Type} (id : FunctionId) (node : NodeId) (answer : Node → α)
    (change : Node → Node) (reply : α → Reply) (action : Action) (uncloned : action.cloned? = none)
    (keepsNodes : action.erased?.bind Producer.nodeId? = none)
    (unverified : action.verified? network = none) :
    ∃ events, network.Recounts events ((network.editNode id node answer change).map reply).2 ∧
      network.Tells action ((network.editNode id node answer change).map reply).1 events :=
  quiet_tells network action _ (edit_node_recounts network id node answer change) uncloned
    keepsNodes unverified

theorem add_layer_tells (kept : network.Represented) (id : FunctionId) (label : String)
    (layer : Layer) : ∃ events, network.Recounts events (network.addLayer id label layer).2 ∧
      network.Tells (.edit id (.addLayer label layer))
        (Except.map Reply.node (network.addLayer id label layer).1) events := by
  obtain ⟨created, recounts, failure⟩ := layer_recounts network kept id label layer
  refine ⟨_, recounts, plain_tells network _ _ _ rfl rfl rfl ?_ ?_⟩
  · intro event listed
    obtain ⟨v, _, rfl⟩ := List.mem_map.mp listed
    rfl
  · intro fault failed
    have built := outcome_map_error Reply.node (network.addLayer id label layer) fault _
      (Prod.ext failed rfl)
    rw [failure fault (congrArg Prod.fst built)]
    rfl

variable (live : (network.storage.values.map Variable.name).Nodup) (kept : network.Represented)

include kept live

theorem erase_variable_tells (id : VariableId) (reply : Variable → Reply) (action : Action)
    (uncloned : action.cloned? = none) (keepsNodes : action.erased?.bind Producer.nodeId? = none)
    (unverified : action.verified? network = none)
    (logs : ∀ name, action.mayLog (.erasedVariable name) = true) : ∃ events,
    network.Recounts events (network.eraseVariable id).2 ∧
      network.Tells action (Except.map reply (network.eraseVariable id).1) events := by
  cases performed : network.eraseVariable id with
  | mk result next =>
      cases result with
      | ok erased =>
          refine ⟨_, erased_variable_recounts network next kept live id erased performed, ?_⟩
          refine plain_tells network action _ _ uncloned keepsNodes unverified (by simp [logs]) ?_
          intro fault failed
          cases failed
      | error fault =>
          have same := erase_variable_failed network next id fault performed
          subst same
          exact ⟨[], unmoved_recount next, failure_tells next action _ unverified⟩

theorem erase_tells (id : FunctionId) (target : Producer) : ∃ events,
    network.Recounts events (network.erase id target).2 ∧
      network.Tells (.edit id (.erase target))
        (Except.map (fun _ => Reply.done) (network.erase id target).1) events := by
  cases performed : network.erase id target with
  | mk result next =>
      cases result with
      | error fault =>
          have same := erase_failed network next id target fault performed
          subst same
          exact ⟨[], unmoved_recount next, failure_tells next _ _ rfl⟩
      | ok answer =>
          cases target with
          | node node =>
              obtain ⟨function, erased, found, held, recounts⟩ :=
                erased_node_recounts network next id node answer performed
              refine ⟨_, recounts, by simp [Action.mayLog], ?_, ?_, ?_, ?_⟩
              · intro _ _ _ same _
                cases same
              · intro _ _ _ same _
                cases same
                exact ⟨function, erased, found, held, rfl⟩
              · intro functions verified
                cases verified
              · intro fault failed
                cases failed
          | var v =>
              rw [Network.erase] at performed
              split at performed
              · cases performed
              · obtain ⟨erased, done, _⟩ :=
                  outcome_map_ok (fun _ => ()) (network.eraseVariable v) answer next performed
                have tells := erase_variable_tells network live kept v (fun _ => .done)
                  (.edit id (.erase (.var v))) rfl rfl rfl fun _ => rfl
                rw [done] at tells
                exact tells

theorem edit_tells (id : FunctionId) (change : Edit) : ∃ events,
    network.Recounts events (network.edit id change).2 ∧
      network.Tells (.edit id change) (network.edit id change).1 events := by
  cases change with
  | addNode label operator inputs results =>
      exact quiet_tells network _ (network.edit id (.addNode label operator inputs results))
        (add_node_recounts network id label operator inputs results) rfl rfl rfl
  | addLayer label layer => exact add_layer_tells network kept id label layer
  | erase target => exact erase_tells network live kept id target
  | rename node name => exact edit_node_tells network id node _ _ (fun _ => .done) _ rfl rfl rfl
  | setInput node i edge => exact edit_node_tells network id node _ _ .replaced _ rfl rfl rfl
  | setPredicate node predicate =>
      exact edit_node_tells network id node _ _ (fun _ => .done) _ rfl rfl rfl

theorem perform_tells (settings : Settings) (action : Action) : ∃ events,
    network.Recounts events (network.perform settings action).2 ∧
      network.Tells action (network.perform settings action).1 events := by
  have quiet (action : Action) (outcome : Outcome Reply) (keeps : network.KeepsNames outcome.2)
      (journal : outcome.2.journal = network.journal) :=
    quiet_tells network action outcome (silent_recount network outcome.2 keeps journal)
  cases action with
  | intern type => exact quiet _ (network.perform settings (.intern type)) ⟨rfl, rfl,
      Nat.le_refl _⟩ rfl rfl rfl rfl
  | reshape base dims =>
      rw [Network.perform]
      split
      · exact quiet _ (_, _) ⟨rfl, rfl, Nat.le_refl _⟩ rfl rfl rfl rfl
      · exact quiet _ (_, _) (kept_names_refl network) rfl rfl rfl rfl
  | freshName requested =>
      exact quiet _ (network.perform settings (.freshName requested)) ⟨rfl, rfl,
        Nat.le_succ _⟩ rfl rfl rfl rfl
  | createFunction name => exact create_function_tells network name
  | cloneFunction source name => exact clone_function_tells network source name
  | createVariable wanted => exact create_variable_tells network wanted
  | setPayload id payload =>
      obtain ⟨keeps, journal⟩ := set_payload_keeps_names network id payload
      exact quiet _ (network.perform settings (.setPayload id payload)) keeps journal rfl rfl rfl
  | eraseVariable id =>
      exact erase_variable_tells network live kept id .variable (.eraseVariable id) rfl rfl rfl fun _ =>
        rfl
  | edit id change => exact edit_tells network live kept id change
  | verify =>
      exact verified_tells network .verify settings network.functions _ rfl (fun _ logs => logs) rfl
  | verifyFunction id =>
      cases found : network.function? id with
      | none =>
          simp only [Network.perform, Network.verifyFunction, found]
          exact ⟨[], unmoved_recount network,
            failure_tells network _ _ (by simp [Action.verified?, found])⟩
      | some function =>
          refine verified_tells network (.verifyFunction id) settings [function] _
            (by simp [Action.verified?, found]) ?_ ?_
          · intro event logs
            cases event with
            | _ => exact logs
          · simp only [Network.perform, Network.verifyFunction, found, single_verification]
  | writeDrawing path refused =>
      exact write_tells network (.writeDrawing path refused) _ _ _ _ rfl rfl rfl rfl
  | writeFunctionDrawing id path refused =>
      simp only [Network.perform, Network.writeFunctionDrawing]
      split
      · exact ⟨[], unmoved_recount network, failure_tells network _ _ rfl⟩
      · exact write_tells network (.writeFunctionDrawing id path refused) _ _ _ _ rfl rfl rfl rfl

end Performed

namespace Network

def createdNames (network : Network) : List String := network.journal.filterMap Event.createdVariable?

def erasedNames (network : Network) : List String := network.journal.filterMap Event.erasedVariable?

def foundedNames (network : Network) : List String := network.journal.filterMap Event.newFunction?

-- The journal tells which variables there are, and which functions. No name is made twice or erased
-- twice.
structure Chronicled (network : Network) : Prop where
  created : NamesBetween 0 network.nextSuffix network.createdNames
  erased : network.erasedNames.Nodup
  onlyCreated : ∀ name ∈ network.erasedNames, name ∈ network.createdNames
  storage : network.storage.values.map Variable.name = network.createdNames.filter fun name =>
    name ∉ network.erasedNames
  functions : network.functions.map Function.name = network.foundedNames

end Network

section Chronicles

variable (network next : Network)

theorem empty_chronicled : Network.empty.Chronicled :=
  ⟨no_names_between 0 0 (Nat.le_refl 0),
    List.nodup_nil, by simp [Network.erasedNames, Network.empty], rfl, rfl⟩

theorem live_names_apart (chronicled : network.Chronicled) :
    (network.storage.values.map Variable.name).Nodup := by
  rw [chronicled.storage]
  exact chronicled.created.apart.filter _

theorem recount_chronicled (events : List Event) (chronicled : network.Chronicled)
    (recounts : network.Recounts events next) : next.Chronicled := by
  have created : next.createdNames = network.createdNames ++
      events.filterMap Event.createdVariable? := by
    rw [Network.createdNames, recounts.journal, List.filterMap_append, Network.createdNames]
  have erased : next.erasedNames = network.erasedNames ++ events.filterMap Event.erasedVariable? := by
    rw [Network.erasedNames, recounts.journal, List.filterMap_append, Network.erasedNames]
  have liveBefore : ∀ name ∈ events.filterMap Event.erasedVariable?,
      name ∈ network.createdNames ∧ name ∉ network.erasedNames := by
    intro name gone
    have present := recounts.present name gone
    rw [chronicled.storage] at present
    simpa using present
  have known : ∀ name ∈ next.erasedNames, name ∈ network.createdNames := by
    intro name listed
    rw [erased] at listed
    rcases List.mem_append.mp listed with before | gone
    · exact chronicled.onlyCreated name before
    · exact (liveBefore name gone).1
  -- A name made only now was not issued before, so it has not been erased.
  have newestStay : (events.filterMap Event.createdVariable?).filter
      (fun name => name ∉ next.erasedNames) =
      events.filterMap Event.createdVariable? := by
    refine List.filter_eq_self.mpr fun name made => decide_eq_true fun listed => ?_
    exact recounts.made.unissued name made (chronicled.created.issued name (known name listed))
  refine ⟨?_, ?_, ?_, ?_, ?_⟩
  · rw [created]
    exact names_between_append _ _ _ _ _ chronicled.created recounts.made
  · rw [erased]
    refine List.nodup_append.mpr ⟨chronicled.erased, recounts.gone, ?_⟩
    rintro name before _ gone rfl
    exact (liveBefore name gone).2 before
  · intro name listed
    rw [created]
    exact List.mem_append_left _ (known name listed)
  · rw [recounts.storage, created, List.filter_append, newestStay, chronicled.storage,
      List.filter_filter]
    refine congrArg (· ++ _) (List.filter_congr fun name _ => ?_)
    simp [erased, Bool.and_comm]
  · rw [recounts.functions, chronicled.functions, Network.foundedNames, Network.foundedNames,
      recounts.journal, List.filterMap_append]

theorem run_chronicled (settings : Settings) (actions : List Action) (kept : network.Represented)
    (chronicled : network.Chronicled) : (network.run settings actions).Chronicled := by
  induction actions generalizing network with
  | nil => exact chronicled
  | cons action rest ih =>
      obtain ⟨events, recounts, _⟩ :=
        perform_tells network (live_names_apart network chronicled) kept settings action
      exact ih _ (changes_represented action _ _ (perform_changes settings network action) kept)
        (recount_chronicled network _ events chronicled recounts)

end Chronicles

theorem journal_is_faithful (settings : Settings) (actions : List Action) :
    (Network.run settings .empty actions).Chronicled ∧
      ∀ action, ∃ events,
        ((Network.run settings .empty actions).perform settings action).2.journal =
          (Network.run settings .empty actions).journal ++ events ∧
        (Network.run settings .empty actions).Tells action
          ((Network.run settings .empty actions).perform settings action).1 events := by
  have chronicled := run_chronicled .empty settings actions empty_represented empty_chronicled
  refine ⟨chronicled, fun action => ?_⟩
  obtain ⟨events, recounts, tells⟩ := perform_tells _ (live_names_apart _ chronicled)
    (run_represented settings .empty actions empty_represented) settings action
  exact ⟨events, recounts.journal, tells⟩

end TensorGraph
