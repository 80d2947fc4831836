import TensorGraph.Proofs.Atomicity
import TensorGraph.Proofs.NameSupply

set_option autoImplicit false

namespace TensorGraph

namespace Event

def createdVariable? : Event → Option String
  | createdVariable name _ _ => some name
  | _ => none

def erasedVariable? : Event → Option String
  | erasedVariable name => some name
  | _ => none

-- The name under which a function comes into the network.
def newFunction? : Event → Option String
  | createdFunction name => some name
  | clonedFunction _ clone _ => some clone
  | _ => none

-- The function whose verification failed, and the text of the reason.
def failure? : Event → Option (String × String)
  | verificationFailed function found => some (function, found.message)
  | _ => none

-- Something was created, cloned or erased.
def isChange : Event → Bool
  | createdVariable _ _ _ | createdFunction _ | erasedNode _ _ | erasedVariable
      _ | clonedFunction _ _ _ => true
  | verificationFailed _ _ | functionDump _ _ | wroteGraph _ _ => false

end Event

def Variable.announcement (v : Variable) : Event := .createdVariable v.name v.visibility v.initializer

-- Variables and functions have the names they had, and the supply of names has not been turned back.
structure Network.KeepsNames (network next : Network) : Prop where
  storage : next.storage.values.map Variable.name = network.storage.values.map Variable.name
  functions : next.functions.map Function.name = network.functions.map Function.name
  suffix : network.nextSuffix ≤ next.nextSuffix

-- What has become of the names of variables and functions is what the events say.
structure Network.Recounts (network : Network) (events : List Event) (next : Network) : Prop where
  journal : next.journal = network.journal ++ events
  made : NamesBetween network.nextSuffix next.nextSuffix (events.filterMap Event.createdVariable?)
  gone : (events.filterMap Event.erasedVariable?).Nodup
  present : ∀ name ∈ events.filterMap Event.erasedVariable?,
  name ∈ network.storage.values.map Variable.name
  storage : next.storage.values.map Variable.name =
    (network.storage.values.map Variable.name).filter
      (fun name => name ∉ events.filterMap Event.erasedVariable?) ++
      events.filterMap Event.createdVariable?
  functions : next.functions.map Function.name =
    network.functions.map Function.name ++ events.filterMap Event.newFunction?

theorem unchanging_event (event : Event) (unchanging : event.isChange = false) :
    event.createdVariable? = none ∧ event.erasedVariable? = none ∧ event.newFunction? = none := by
  cases event with
  | verificationFailed | functionDump | wroteGraph => exact ⟨rfl, rfl, rfl⟩
  | _ => cases unchanging

section Recounts

variable (network next : Network)

theorem kept_names_refl : network.KeepsNames network := ⟨rfl, rfl, Nat.le_refl _⟩

-- Events of which none concerns the names beside a state in which they are as before.
theorem kept_names_recount (events : List Event) (keeps : network.KeepsNames next)
    (journal : next.journal = network.journal ++ events)
    (created : events.filterMap Event.createdVariable? = [])
    (erased : events.filterMap Event.erasedVariable? = [])
    (founded : events.filterMap Event.newFunction? = []) :
    network.Recounts events next := by
  refine ⟨journal, ?_, ?_, ?_, ?_, ?_⟩
  · rw [created]
    exact no_names_between _ _ keeps.suffix
  · rw [erased]
    exact List.nodup_nil
  · simp [erased]
  · simp [erased, created, keeps.storage]
  · simp [founded, keeps.functions]

theorem unchanged_recount (events : List Event) (keeps : network.KeepsNames next)
    (journal : next.journal = network.journal ++ events)
    (unchanging : ∀ event ∈ events, event.isChange = false) :
    network.Recounts events next :=
  kept_names_recount network next events keeps journal
    (List.filterMap_eq_nil_iff.mpr fun event listed =>
      (unchanging_event event (unchanging event listed)).1)
    (List.filterMap_eq_nil_iff.mpr fun event listed =>
      (unchanging_event event (unchanging event listed)).2.1)
    (List.filterMap_eq_nil_iff.mpr fun event listed =>
      (unchanging_event event (unchanging event listed)).2.2)

theorem silent_recount (keeps : network.KeepsNames next) (journal : next.journal = network.journal) :
    network.Recounts [] next :=
  unchanged_recount network next [] keeps (journal.trans (List.append_nil _).symm) (by simp)

theorem recount_then_kept (middle : Network) (events : List Event)
    (recounts : network.Recounts events middle) (keeps : middle.KeepsNames next)
    (journal : next.journal = middle.journal) :
      network.Recounts events next := by
  refine ⟨journal.trans recounts.journal, ?_, recounts.gone, recounts.present, ?_, ?_⟩
  · exact fewer_names_between _ _ _ _ _ recounts.made (List.Sublist.refl _) keeps.suffix
  · exact keeps.storage.trans recounts.storage
  · exact keeps.functions.trans recounts.functions

end Recounts

section Variables

variable (network : Network)

theorem announced_names (created : List Variable) :
    (created.map Variable.announcement).filterMap Event.createdVariable? = created.map Variable.name ∧
      (created.map Variable.announcement).filterMap Event.erasedVariable? = [] ∧
      (created.map Variable.announcement).filterMap Event.newFunction? = [] := by
  induction created with
  | nil => exact ⟨rfl, rfl, rfl⟩
  | cons v rest ih => exact ⟨congrArg (v.name :: ·) ih.1, ih.2.1, ih.2.2⟩

theorem create_variables_announced (wanted : List Parameter) : ∃ created : List Variable,
    (network.createVariables wanted).storage = network.storage.pushAll created ∧
    (network.createVariables wanted).journal = network.journal ++ created.map Variable.announcement ∧
    NamesBetween network.nextSuffix (network.createVariables wanted).nextSuffix
      (created.map Variable.name) := by
  induction wanted generalizing network with
  | nil => exact ⟨[], (network.storage.push_all_nil).symm, (List.append_nil _).symm,
      no_names_between _ _ (Nat.le_refl _)⟩
  | cons parameter rest ih =>
      obtain ⟨created, storage, journal, between⟩ := ih (network.createVariable parameter).2
      have first : NamesBetween network.nextSuffix (network.nextSuffix + 1)
          [(network.createVariable parameter).1.name] :=
        next_name_between _ _ parameter.name [] [] (no_names_between _ _ (Nat.le_refl _))
      refine ⟨(network.createVariable parameter).1 :: created, ?_, ?_, ?_⟩
      · exact storage.trans (network.storage.push_all_cons (network.createVariable parameter).1 created)
      · exact journal.trans (List.append_assoc ..)
      · exact names_between_append _ _ _ _ _ first between

theorem create_variables_recount (wanted : List Parameter) : ∃ created : List Variable,
    network.Recounts (created.map Variable.announcement) (network.createVariables wanted) := by
  obtain ⟨created, storage, journal, between⟩ := create_variables_announced network wanted
  obtain ⟨made, gone, founded⟩ := announced_names created
  refine ⟨created, journal, ?_, ?_, ?_, ?_, ?_⟩
  · rw [made]
    exact between
  · simp [gone]
  · simp [gone]
  · simp [gone, made, storage]
  · simp [founded, create_variables_functions]

end Variables

section Requests

variable (network next : Network)

theorem updated_names_kept (id : FunctionId) (change : Function → Function)
    (named : ∀ function, (change function).name = function.name) :
    (network.functions.modify id.index change).map Function.name =
      network.functions.map Function.name := by
  apply List.ext_getElem?
  intro place
  rw [List.getElem?_map, List.getElem?_modify, List.getElem?_map]
  cases network.functions[place]? with
  | none => rfl
  | some function =>
      by_cases here : id.index = place
      · simp [here, named]
      · simp [here]

theorem erased_function_name (function : Function) (id : NodeId) :
    (function.erase id).name = function.name := by
  rw [Function.erase]
  split
  · rfl
  · rfl

theorem edited_function_name (function : Function) (id : NodeId) (change : Node → Node) :
    (function.edit id change).name = function.name := by
  rw [Function.edit]
  split
  · rfl
  · rfl

theorem added_node_keeps_names (id : FunctionId) (node : Node) (label : String)
    (adds : network.Adds id node label next) :
    network.KeepsNames next ∧ next.journal = network.journal := by
  rw [adds.result]
  exact ⟨⟨rfl, updated_names_kept network id _ fun _ => rfl, Nat.le_succ _⟩, rfl⟩

theorem add_node_recounts (id : FunctionId) (label : String) (operator : Operator) (inputs : List Edge)
    (results : List TypeHandle) :
    network.Recounts [] (network.addNode id label operator inputs results).2 := by
  rcases add_node_cases network id label operator inputs results
    with ⟨_, failed⟩ | ⟨node, after, added, _, _, _, adds⟩
  · rw [failed]
    exact silent_recount network network (kept_names_refl network) rfl
  · rw [added]
    obtain ⟨keeps, silent⟩ := added_node_keeps_names network after id node label adds
    exact silent_recount network after keeps silent

-- Only conversions can fail this late, and they bring no variables.
theorem late_failure_without_variables (kept : network.Represented) (id : FunctionId)
    (function : Function) (found : network.function? id = some function) (label : String)
    (layer : Layer) (draft : Draft)
    (drafted : (network.scopeOf function).draft label layer = .ok draft) (fault : GraphFault)
    (failed : (network.build id function draft).1 = .error fault) : draft.parameters = [] := by
  rcases (draft_sound (network.scopeOf function) label draft layer drafted).granted with
    ⟨types, granted⟩ | ⟨_, _, noParameters, _⟩
  · obtain ⟨made, built⟩ := granted_draft_built network kept id function found draft types granted
    cases failed.symm.trans built
  · exact noParameters

theorem build_recounts (kept : network.Represented) (id : FunctionId) (function : Function)
    (found : network.function? id = some function) (label : String) (layer : Layer) (draft : Draft)
    (drafted : (network.scopeOf function).draft label layer = .ok draft) : ∃ created : List Variable,
    network.Recounts (created.map Variable.announcement) (network.build id function draft).2 ∧
      ∀ fault, (network.build id function draft).1 = .error fault → created = [] := by
  have readied : (network.createVariables draft.parameters).KeepsNames (network.readyFor draft) :=
    ⟨rfl, rfl, Nat.le_refl _⟩
  obtain ⟨created, recounts⟩ := create_variables_recount network draft.parameters
  have supplied := recount_then_kept network _ _ _ recounts readied rfl
  cases built : network.build id function draft with
  | mk result next =>
      cases result with
      | ok made =>
          obtain ⟨node, _, _, builds⟩ := build_done network next id function draft made built kept
          obtain ⟨keeps, silent⟩ := added_node_keeps_names _ next id node draft.label builds.adds
          refine ⟨created, recount_then_kept network next _ _ supplied keeps silent, ?_⟩
          intro fault failed
          cases failed
      | error fault =>
          have reached := failed_build network next id function draft fault built
          have unsupplied :=
            late_failure_without_variables network kept id function found label layer draft drafted fault
            (congrArg Prod.fst built)
          refine ⟨[], ?_, fun _ _ => rfl⟩
          rw [reached, Network.readyFor, unsupplied]
          exact silent_recount network _ ⟨rfl, rfl, Nat.le_refl _⟩ rfl

theorem layer_recounts (kept : network.Represented) (id : FunctionId) (label : String) (layer : Layer) :
    ∃ created : List Variable, network.Recounts (created.map Variable.announcement)
      (network.addLayer id label layer).2 ∧
      ∀ fault, (network.addLayer id label layer).1 = .error fault → created = [] := by
  have unmoved := silent_recount network network (kept_names_refl network) rfl
  rw [Network.addLayer]
  cases found : network.function? id with
  | none => exact ⟨[], unmoved, fun _ _ => rfl⟩
  | some function =>
      dsimp only
      cases drafted : (network.scopeOf function).draft label layer with
      | error _ => exact ⟨[], unmoved, fun _ _ => rfl⟩
      | ok draft => exact build_recounts network kept id function found label layer draft drafted

theorem create_function_recounts (name : String) (created : FunctionId)
    (done : network.createFunction name = (.ok created, next)) :
    network.Recounts [.createdFunction name] next := by
  rw [Network.createFunction] at done
  split at done
  · cases done
  · cases done
    refine ⟨rfl, no_names_between _ _ (Nat.le_refl _),
      List.nodup_nil, by simp [Event.erasedVariable?], ?_, ?_⟩
    · simp [Network.report, Event.erasedVariable?, Event.createdVariable?]
    · simp [Network.report, Event.newFunction?]

theorem clone_function_recounts (source : FunctionId) (name : String) (answer : FunctionId × NodeMapping)
    (done : network.cloneFunction source name = (.ok answer, next)) :
    ∃ cloned, network.function? source = some cloned ∧
      network.Recounts [.clonedFunction cloned.name name cloned.size] next := by
  rw [Network.cloneFunction] at done
  split at done
  · cases done
  · split at done
    · cases done
    · rename_i cloned found
      dsimp only at done
      split at done
      · cases done
      · rename_i copies copied
        obtain ⟨_, sameName, sameNodes⟩ := push_all_parts copies
          { id := ⟨network.functions.length⟩, name := name }
        have twins := copied_nodes_twins _ _ _ _ _ copied
        cases done
        refine ⟨cloned, found, ?_, no_names_between _ _ (Nat.le_refl _),
          List.nodup_nil, by simp [Event.erasedVariable?], ?_, ?_⟩
        · have sameSize : (copies.foldl Function.push
            { id := ⟨network.functions.length⟩, name := name }).size = cloned.size := by
            simp only [Function.size, sameNodes, List.nil_append]
            exact twins.length_eq.symm
          simp only [Network.report, sameSize]
        · simp [Network.report, Event.erasedVariable?, Event.createdVariable?]
        · simp [Network.report, Event.newFunction?, sameName]

-- Variables that are told apart by their names are told apart by their numbers too, so one name goes
-- with one number.
theorem erased_variable_recounts (kept : network.Represented)
    (live : (network.storage.values.map Variable.name).Nodup)
    (id : VariableId) (erased : Variable) (done : network.eraseVariable id = (.ok erased, next)) :
    network.Recounts [.erasedVariable erased.name] next := by
  rw [Network.eraseVariable] at done
  split at done
  · rename_i held found
    cases done
    obtain ⟨stored, same⟩ := (variable_iff _ _ _ kept.storage id erased).mp found
    have others : ∀ v ∈ network.storage, (v.id != id) = decide (v.name ≠ erased.name) := by
      intro v member
      rw [Bool.eq_iff_iff, bne_iff_ne, decide_eq_true_iff]
      refine not_congr ⟨fun sameId => ?_, fun sameName => ?_⟩
      · have again := (variable_iff _ _ _ kept.storage id v).mpr ⟨member, sameId⟩
        rw [Option.some.inj (again.symm.trans found)]
      · rw [List.inj_on_of_nodup_map live member stored sameName, same]
    refine ⟨rfl, no_names_between _ _ (Nat.le_refl _), List.nodup_singleton _, ?_, ?_, ?_⟩
    · simpa [Event.erasedVariable?] using ⟨erased, stored, rfl⟩
    · simp only [Network.report, network.storage.erased_values kept.storage.keyed,
        List.filter_congr others, List.filter_map]
      simp [Event.erasedVariable?, Event.createdVariable?, Function.comp_def]
    · simp [Network.report, Event.newFunction?]
  · cases done

theorem erased_node_recounts (id : FunctionId) (target : NodeId) (answer : Unit)
    (done : network.erase id (.node target) = (.ok answer, next)) : ∃ function node,
    network.function? id = some function ∧ function.node? target = some node ∧
      network.Recounts [.erasedNode function.name node.name] next := by
  rw [Network.erase] at done
  split at done
  · cases done
  · rename_i function found
    dsimp only at done
    split at done
    · cases done
    · rename_i node held
      cases done
      have named := updated_names_kept network id (fun function => function.erase target)
        fun function => erased_function_name function target
      refine ⟨function, node, found, held, ?_⟩
      have keeps :
          network.KeepsNames ((network.updateFunction id fun function => function.erase target).report
          (.erasedNode function.name node.name)) := ⟨rfl, named, Nat.le_refl _⟩
      exact kept_names_recount network _ _ keeps rfl rfl rfl rfl

theorem edit_node_recounts {α : Type} (id : FunctionId) (node : NodeId) (answer : Node → α)
    (change : Node → Node) :
    network.Recounts [] (network.editNode id node answer change).2 := by
  rw [Network.editNode]
  split
  · exact silent_recount network network (kept_names_refl network) rfl
  · split
    · exact silent_recount network network (kept_names_refl network) rfl
    · have named := updated_names_kept network id (fun function => function.edit node change)
        fun function => edited_function_name function node change
      exact silent_recount network _ ⟨rfl, named, Nat.le_refl _⟩ rfl

end Requests

end TensorGraph
