import Mathlib.Data.List.Perm.Basic
import TensorGraph.Proofs.Additions

set_option autoImplicit false

namespace TensorGraph

-- A variable that a layer brings along, and the pin of its node that reads it.
structure Provision where
  pin : String
  parameter : Parameter
deriving DecidableEq, Repr

namespace Layer

-- The operand of a layer that makes its other operands itself.
def provided? : Layer → Option Edge
  | convolution input _ _ | fullyConnected input _ | batchNormalization input _ _ _ | save input
  | quantizationProfile input => some input
  | _ => none

-- What such a layer brings along for an operand of the given type, in the order of the pins.
def provisions (label : String) (type : TensorType) : Layer → List Provision
  | convolution _ depth window =>
      let channels := type.dims.getD 3 0
      let fanIn := Dims.product [window.kernel, window.kernel, channels]
      [⟨"Filter", .internal .float [depth, window.kernel, window.kernel, channels] "filter"
        (.xavier (.ofNat fanIn))⟩,
        ⟨"Bias", .internal .float [depth] "bias" (.broadcast biasFill)⟩]
  | fullyConnected _ depth =>
      let features := Dims.product type.dims.tail
      [⟨"Weights", .internal type.element [.ofNat features, depth] "weights"
        (.xavier (.ofNat features))⟩,
        ⟨"Bias", .internal type.element [depth] "bias" (.broadcast biasFill)⟩]
  | batchNormalization _ channel _ _ =>
      let dims := [type.dims.getD channel.toNat 0]
      [⟨"Scale", .internal .float dims "gamma" (.broadcast (.ofNat 1))⟩,
        ⟨"Bias", .internal .float dims "beta" (.broadcast (.ofNat 0))⟩,
        ⟨"Mean", .internal .float dims "mean" .none⟩,
        ⟨"Var", .internal .float dims "variance" .none⟩]
  | save _ => [⟨"Output", type, label, .external, .none⟩]
  | quantizationProfile _ =>
      [⟨"Histogram", .internal .float [profileBuckets] "histogram" .none⟩,
        ⟨"ComputationInfo", .internal .float [2] "computationInfo" .none⟩]
  | _ => []

-- The name that the node of the layer is asked for under.
def title (label : String) : Layer → String
  | save _ => "_save_" ++ label
  | _ => label

-- The types of an operand that the layer can be put on.
def Admits (type : TensorType) : Layer → Prop
  | convolution _ depth window => ∃ images : Images, type.dims = images.dims ∧
      window.Slides images.height images.width ∧
      depth ≠ 0 ∧ Dims.Countable [window.kernel, window.kernel, images.channels]
  | fullyConnected _ depth => ∃ batch rest, type.dims = batch :: rest ∧ Dims.Countable rest ∧ depth ≠ 0
  | batchNormalization _ channel _ _ => channel.toNat < type.rank
  | _ => True

end Layer

-- How a draft serves its provisions: by which of its parameters, in the order of the pins.
structure Draft.Serves (draft : Draft) (input : Edge) (title : String) (provisions : List Provision)
    (places : List Nat) :
    Prop where
  label : draft.label = title
  operands : draft.operands = .given input :: places.map .fresh
  pins : draft.operator.inputPins = some ("Input" :: provisions.map Provision.pin)
  whole : places.Perm (List.range draft.parameters.length)
  asked : List.Forall₂ (fun place provision => draft.parameters[place]? =
    some provision.parameter) places provisions

-- A variable as it is asked for, under whatever name.
structure Parameter.Matches (pool : TypePool) (parameter : Parameter) (v : Variable) : Prop where
  type : pool.get? v.type = some parameter.type
  visibility : v.visibility = parameter.visibility
  initializer : v.initializer = parameter.initializer

-- A variable made for a provision, as one of so many in a row.
structure Provision.Fills (network next : Network) (count : Nat) (provision : Provision)
    (v : Variable) : Prop where
  place : ∃ place < count, v.id = ⟨network.nextVariable + place⟩ ∧
    v.name = uniqueName (network.nextSuffix + place) provision.parameter.name
  asked : provision.parameter.Matches next.types v
  payload : v.payload = none

-- One node more in one function, with the variables that it reads beside its operand.
structure Network.Provides (network : Network) (id : FunctionId) (input : Edge) (title : String)
    (provisions : List Provision) (node : Node) (attached : List Variable) (next : Network) : Prop where
  functions : next.functions = network.functions.modify id.index fun function => function.push node
  number : node.id = ⟨network.nextNode⟩
  named : node.name = uniqueName (network.nextSuffix + provisions.length) title
  pins : node.operator.inputPins = some ("Input" :: provisions.map Provision.pin)
  inputs : node.inputs = input :: attached.map fun v => .ofVariable v.id
  filled : List.Forall₂ (Provision.Fills network next provisions.length) provisions attached
  storage : ∃ made, next.storage = network.storage.pushAll made ∧ made.Perm attached ∧
    made.map Variable.id = (List.range' network.nextVariable provisions.length).map VariableId.mk
  types : network.types.Extends next.types
  numbering : next.numbering = ⟨network.nextVariable + provisions.length,
    network.nextSuffix + (provisions.length + 1), network.nextNode + 1⟩

section Drafts

variable (scope : Scope) (label : String) (layer : Layer) (input : Edge)
  (provided : layer.provided? = some input)

include provided

theorem provided_draft_serves (draft : Draft) (drafted : scope.draft label layer = .ok draft) :
    ∃ type, scope.Yields input type ∧ layer.Admits type ∧
      ∃ places, draft.Serves input (layer.title label) (layer.provisions label type) places := by
  cases layer <;> cases provided
  all_goals
    simp only [Scope.draft, bind_ok_iff, some_unit_iff, operand_iff, require_ok_iff, shaped_ok_iff,
      images_of_iff,
      window_output_iff, flattened_iff, channels_of_iff, count_iff, Except.ok.injEq] at drafted
  case convolution depth window =>
    obtain ⟨type, typed, images, imaged, _, ⟨slides, rfl⟩, deep, fanIn, counted, rfl⟩ := drafted
    obtain ⟨countable, same⟩ := (count_exact_iff _ _).mp counted
    refine ⟨type, typed, ⟨images, imaged, slides, deep, countable⟩, [0, 1], rfl, rfl, rfl, .refl _, ?_⟩
    simp [Layer.provisions, imaged, Images.dims, same]
  case fullyConnected depth =>
    obtain ⟨type, typed, ⟨batch, features⟩, ⟨rest, flat, counted⟩, deep, rfl⟩ := drafted
    obtain ⟨countable, same⟩ := (count_exact_iff _ _).mp counted
    refine ⟨type, typed, ⟨batch, rest, flat, countable, deep⟩, [0, 1], rfl, rfl, rfl, .refl _, ?_⟩
    simp [Layer.provisions, flat, ← same]
  case batchNormalization channel epsilon momentum =>
    obtain ⟨type, typed, channels, channelled, rfl⟩ := drafted
    have bound := (List.getElem?_eq_some_iff.mp channelled).1
    refine ⟨type, typed, bound, [1, 0, 2, 3], rfl, rfl, rfl, .swap 0 1 _, ?_⟩
    simp [Layer.provisions, channelled]
  case save =>
    obtain ⟨type, typed, rfl⟩ := drafted
    exact ⟨type, typed, trivial, [0], rfl, rfl, rfl, .refl _, .cons rfl .nil⟩
  case quantizationProfile =>
    obtain ⟨type, typed, rfl⟩ := drafted
    exact ⟨type, typed, trivial, [0, 1], rfl, rfl, rfl, .refl _, .cons rfl (.cons rfl .nil)⟩

theorem admitted_drafted (type : TensorType) (typed : scope.Yields input type)
    (admitted : layer.Admits type) :
    ∃ draft, scope.draft label layer = .ok draft := by
  cases layer <;> cases provided
  all_goals
    simp only [Scope.draft, bind_ok_iff, some_unit_iff, operand_iff, require_ok_iff, shaped_ok_iff,
      images_of_iff, window_output_iff, flattened_iff, channels_of_iff, count_iff, Except.ok.injEq]
  case convolution depth window =>
    obtain ⟨images, imaged, slides, deep, countable⟩ := admitted
    obtain ⟨fanIn, counted⟩ := (countable_iff _).mp countable
    exact ⟨_, type, typed, images, imaged, _, ⟨slides, rfl⟩, deep, fanIn, counted, rfl⟩
  case fullyConnected depth =>
    obtain ⟨batch, rest, flat, countable, deep⟩ := admitted
    obtain ⟨features, counted⟩ := (countable_iff _).mp countable
    exact ⟨_, type, typed, (batch, features), ⟨rest, flat, counted⟩, deep, rfl⟩
  case batchNormalization channel epsilon momentum =>
    exact ⟨_, type, typed, _, List.getElem?_eq_getElem admitted, rfl⟩
  case save => exact ⟨_, type, typed, rfl⟩
  case quantizationProfile => exact ⟨_, type, typed, rfl⟩

-- Once such a layer is drafted nothing stands in its way: the conversions that can still be refused
-- bring no variables.
theorem provided_draft_granted (draft : Draft) (drafted : scope.draft label layer = .ok draft) :
    ∃ types, scope.Grants draft types := by
  refine (draft_sound scope label draft layer drafted).granted.resolve_right ?_
  rintro ⟨_, unscaled, _⟩
  cases unscaled <;> cases provided

end Drafts

theorem listed_at_range {α : Type} (items : List α) :
    List.Forall₂ (fun i item => items[i]? = some item) (List.range items.length) items := by
  refine List.forall₂_iff_get.mpr ⟨List.length_range, fun i _ inside => ?_⟩
  simp [inside]

theorem handle_of_member (pool : TypePool) (exact : pool.Exact) (type : TensorType)
    (member : type ∈ pool.types) :
    pool.get? (pool.handleOf type) = some type := by
  obtain ⟨i, access⟩ := List.mem_iff_getElem?.mp member
  have known : pool.get? ⟨i⟩ = some type := access
  rw [handle_of_known pool exact _ type known]
  exact known

theorem variable_made_at (pool : TypePool) (number suffix : Nat) (wanted : List Parameter) (i : Nat) :
    (variablesMade pool number suffix wanted)[i]? =
      (wanted[i]?).map (Parameter.made pool (number + i) (suffix + i)) := by
  induction wanted generalizing number suffix i with
  | nil => rfl
  | cons parameter rest ih =>
      cases i with
      | zero => rfl
      | succ i =>
          rw [variablesMade, List.getElem?_cons_succ, List.getElem?_cons_succ, ih]
          simp only [Nat.add_right_comm _ 1 i, Nat.add_assoc]

theorem variables_made_numbers (pool : TypePool) (number suffix : Nat) (wanted : List Parameter) :
    (variablesMade pool number suffix wanted).map Variable.id =
      (List.range' number wanted.length).map VariableId.mk := by
  induction wanted generalizing number suffix with
  | nil => rfl
  | cons parameter rest ih =>
      rw [variablesMade, List.map_cons, List.length_cons, List.range'_succ, List.map_cons, ih]
      rfl

theorem gained_parameter_known (network next : Network) (kept : network.Represented) (id : FunctionId)
    (draft : Draft) (gains : network.Gains id (.complete draft) next) (parameter : Parameter)
    (asked : parameter ∈ draft.parameters) :
    parameter.type ∈ next.types.types := by
  rw [gains.types, intern_all_member_iff _ kept.types]
  exact .inr (List.mem_append_left _ (List.mem_map_of_mem asked))

section Served

variable (network next : Network) (nextKept : next.Represented) (id : FunctionId) (draft : Draft)
  (gains : network.Gains id (.complete draft) next) (input : Edge) (title : String)
  (provisions : List Provision) (places : List Nat)
  (serves : draft.Serves input title provisions places) (kept : network.Represented)

include serves

theorem served_count : draft.parameters.length = provisions.length := by
  rw [← serves.asked.length_eq, serves.whole.length_eq, List.length_range]

include nextKept gains kept

theorem made_variable_fills (place : Nat) (provision : Provision) (v : Variable)
    (asked : draft.parameters[place]? = some provision.parameter)
    (made : (variablesMade next.types network.nextVariable network.nextSuffix
      draft.parameters)[place]? = some v) :
    provision.Fills network next provisions.length v := by
  have below : place < provisions.length :=
    served_count draft input title provisions places serves ▸ (List.getElem?_eq_some_iff.mp asked).1
  rw [variable_made_at, asked] at made
  obtain rfl := Option.some.inj made
  have known := gained_parameter_known network next kept id draft gains _ (List.mem_of_getElem? asked)
  exact ⟨⟨place, below, rfl, rfl⟩, ⟨handle_of_member _ nextKept.types _ known, rfl, rfl⟩, rfl⟩

theorem served_draft_provides :
    ∃ node attached, network.Provides id input title provisions node attached next := by
  let made := variablesMade next.types network.nextVariable network.nextSuffix draft.parameters
  have whole := pool_extends_refl next.types
  have count := served_count draft input title provisions places serves
  have numbers :=
    variables_made_numbers next.types network.nextVariable network.nextSuffix draft.parameters
  have length : made.length = draft.parameters.length := by simpa using congrArg List.length numbers
  obtain ⟨attached, read, shuffled⟩ :=
    List.perm_comp_forall₂ serves.whole (length ▸ listed_at_range made)
  refine ⟨draft.node next.types network.numbering, attached, ?_⟩
  refine ⟨gains.functions next.types nextKept.types whole, rfl, ?_, serves.pins, ?_, ?_, ?_, ?_, ?_⟩
  · rw [Draft.node, serves.label, count]
    rfl
  · rw [Draft.node, serves.operands, List.map_cons, List.map_map]
    refine congrArg (input :: ·) (List.forall₂_eq_eq_eq ▸
      List.forall₂_map_left_iff.mpr (List.forall₂_map_right_iff.mpr ?_))
    refine read.imp fun place v access => ?_
    rw [variable_made_at, Option.map_eq_some_iff] at access
    obtain ⟨parameter, _, rfl⟩ := access
    rfl
  · refine related_through _ _ _ places provisions attached serves.asked read ?_
    exact made_variable_fills network next nextKept id draft gains input title provisions
      places serves kept
  · exact ⟨made, gains.storage next.types nextKept.types whole, shuffled.symm, count ▸ numbers⟩
  · exact gains.types ▸ intern_all_extends _ _
  · rw [gains.numbering, ← count]
    rfl

end Served

-- The operand has a type, and one that the layer can be put on.
def Network.Admits (network : Network) (id : FunctionId) (layer : Layer) (input : Edge)
    (type : TensorType) : Prop :=
  ∃ function, network.function? id = some function ∧ (network.scopeOf function).typeOf input = .ok type ∧
    layer.Admits type

theorem provided_layers_are_all_or_nothing (settings : Settings) (actions : List Action)
    (id : FunctionId) (label : String) (layer : Layer) (input : Edge)
    (provided : layer.provided? = some input) :
    let network := Network.run settings .empty actions
    let outcome := network.addLayer id label layer
    (∃ type node attached, network.Admits id layer input type ∧ outcome.1 = .ok node.id ∧
      network.Provides id input (layer.title label)
        (layer.provisions label type) node attached outcome.2) ∨
    ((∀ type, ¬ network.Admits id layer input type) ∧ ∃ fault, outcome = (.error fault, network)) := by
  intro network outcome
  have kept : network.Represented := run_represented settings .empty actions empty_represented
  have nextKept : outcome.2.Represented :=
    changes_represented .verify _ _ (add_layer_changes .verify network id label layer) kept
  cases found : network.function? id with
  | none =>
      refine .inr ⟨?_, .unknownFunction id, by simp only [outcome, Network.addLayer, found]⟩
      rintro type ⟨function, present, _⟩
      cases found.symm.trans present
  | some function =>
      cases drafted : (network.scopeOf function).draft label layer with
      | error fault =>
          refine .inr ⟨?_, fault, by simp only [outcome, Network.addLayer, found, drafted]⟩
          rintro type ⟨other, present, typed, admitted⟩
          obtain rfl := Option.some.inj (found.symm.trans present)
          have yields := (type_of_iff _ input type).mp typed
          obtain ⟨draft, ready⟩ := admitted_drafted _ label layer input provided type yields admitted
          cases drafted.symm.trans ready
      | ok draft =>
          obtain ⟨type, yields, admitted, places, serves⟩ :=
            provided_draft_serves _ label layer input provided draft drafted
          obtain ⟨types, granted⟩ := provided_draft_granted _ label layer input provided draft drafted
          obtain ⟨answered, gains⟩ := planned_layer network kept id label layer _
            (.completed function found draft drafted types granted.supplied
              (granted_checked _ draft types granted))
          obtain ⟨node, attached, provides⟩ :=
            served_draft_provides network outcome.2 nextKept id draft gains input _ _ places serves kept
          refine .inl ⟨type, node, attached,
            ⟨function, found, (type_of_iff _ input type).mpr yields, admitted⟩, ?_, provides⟩
          exact answered.trans (congrArg Except.ok provides.number.symm)

-- The scale is read first and was made second.
theorem normalization_brings_its_statistics :
    let actions := [.createFunction "f", .createVariable ⟨.plain .float [2, 3], "x", .external, .none⟩]
    let network := Network.run {} .empty actions
    let layer := Layer.batchNormalization (.ofVariable ⟨0⟩) 1 ⟨0x3727c5ac⟩ ⟨0x3f666666⟩
    ∃ node attached, network.Provides ⟨0⟩ (.ofVariable ⟨0⟩) "n"
      [⟨"Scale", .internal .float [3] "gamma" (.broadcast (.ofNat 1))⟩,
        ⟨"Bias", .internal .float [3] "beta" (.broadcast (.ofNat 0))⟩,
        ⟨"Mean", .internal .float [3] "mean" .none⟩, ⟨"Var", .internal .float [3] "variance" .none⟩]
      node attached (network.addLayer ⟨0⟩ "n" layer).2 := by
  intro actions network layer
  let home : Function := { id := ⟨0⟩, name := "f" }
  have present : network.function? ⟨0⟩ = some home := by decide +kernel
  have known : (network.scopeOf home).typeOf (.ofVariable ⟨0⟩) = .ok (.plain .float [2, 3]) := by
    decide +kernel
  rcases provided_layers_are_all_or_nothing {} actions ⟨0⟩ "n" layer (.ofVariable ⟨0⟩) rfl with
    ⟨type, node, attached, ⟨function, found, typed, _⟩, _, provides⟩ | ⟨refused, _⟩
  · obtain rfl := Option.some.inj (present.symm.trans found)
    obtain rfl := Except.ok.inj (known.symm.trans typed)
    exact ⟨node, attached, provides⟩
  · exact absurd ⟨home, present, known, Nat.lt_succ_self 1⟩ (refused (.plain .float [2, 3]))

end TensorGraph
