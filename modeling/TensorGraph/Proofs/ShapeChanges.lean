import TensorGraph.Proofs.LayerForms
import TensorGraph.Proofs.Persistence
import TensorGraph.Proofs.ShownTypes

set_option autoImplicit false

namespace TensorGraph

-- The handle behind an edge of a function.
def Network.Bears (network : Network) (id : FunctionId) (edge : Edge) (handle : TypeHandle) : Prop :=
  ∃ function, network.function? id = some function ∧
    (network.scopeOf function).handle? edge = some handle

-- An edge of one network and one of another lead to the same type, under the same handle.
structure Network.ShowsAlike (network next : Network) (id : FunctionId) (edge twin : Edge)
    (type : TensorType) : Prop where
  first : network.Shows id edge type
  second : next.Shows id twin type
  handle : ∃ handle, network.Bears id edge handle ∧ next.Bears id twin handle

-- A layer that changes nothing but the shape of its operand, to one of those related to it.
structure Layer.Reshapes (layer : Layer) (input : Edge) (operator : Operator)
    (shape : Dims → Dims → Prop) : Prop where
  spared : ∀ scope result, ¬ layer.Unscaled scope result
  drafts : ∀ (scope : Scope) (label : String) (draft : Draft), scope.draft label layer = .ok draft ↔
    ∃ type dims, scope.Yields input type ∧ shape type.dims dims ∧
      draft = { label := label, operator := operator, operands := [.given
        input], results := [type.withDims dims] }

-- What is there once an operator has made a result of one type out of an operand of another.
structure Network.Results (next : Network) (id : FunctionId) (operator : Operator)
    (type result : TensorType) (made : NodeId) : Prop where
  shown : ∀ other, next.Shows id (.ofNode made) other ↔ other = result
  described : next.Describes id made operator [type] [result]
  checked : operator.check [type] [result] = .ok ()

theorem shows_of_lookup (network : Network) (id : FunctionId) (edge : Edge) (type : TensorType)
    (known : (network.function? id).map (fun function => (network.scopeOf function).typeOf edge) =
      some (.ok type)) :
    network.Shows id edge type := by
  obtain ⟨function, found, typed⟩ := Option.map_eq_some_iff.mp known
  exact ⟨function, found, typed⟩

section Reshaping

variable (network : Network) (kept : network.Represented) (id : FunctionId) (label : String)
  (layer : Layer) (input : Edge) (operator : Operator) (shape : Dims → Dims → Prop)
  (reshapes : layer.Reshapes input operator shape) (type : TensorType)

include kept reshapes

theorem reshaping_made (shown : network.Shows id input type)
    (dims : Dims) (shaped : shape type.dims dims) :
    ∃ made next, network.addLayer id label layer = (.ok made, next) ∧
      next.Results id operator type (type.withDims dims) made := by
  obtain ⟨function, found, typed⟩ := shown
  have yields : (network.scopeOf function).Yields input type := (type_of_iff _ input type).mp typed
  have drafted := (reshapes.drafts (network.scopeOf function) label _).mpr ⟨type, dims,
    yields, shaped, rfl⟩
  have supplied : List.Forall₂ ((network.scopeOf function).Supplies []) [.given input] [type] :=
    .cons yields .nil
  have checked : operator.check [type] [type.withDims dims] = .ok () := by
    obtain ⟨types, granted⟩ := (draft_sound _ label _ layer
      drafted).granted.resolve_right fun ⟨result, unscaled, _⟩ =>
      reshapes.spared _ result unscaled
    obtain rfl := (supplies_unique _ []).forall₂ granted.supplied supplied
    exact granted_checked _ _ [type] granted
  obtain ⟨made, next, added, described⟩ :=
    drafted_layer_described network kept id function found _ [type] supplied label layer drafted checked
  obtain ⟨_, draft, again, draftedAgain, reveals⟩ :=
    added_layer_reveals network next kept id label layer made added
  obtain rfl := Option.some.inj (found.symm.trans again)
  obtain rfl := Except.ok.inj (drafted.symm.trans draftedAgain)
  exact ⟨made, next, added, lone_result_shown network next id _ made reveals
    (type.withDims dims) rfl, described, checked⟩

theorem reshaping_input (made : NodeId) (next : Network) (added : network.addLayer id label layer =
    (.ok made, next)) :
    ∃ type dims, network.Shows id input type ∧ shape type.dims dims := by
  obtain ⟨function, draft, found, drafted, _⟩ :=
    added_layer_reveals network next kept id label layer made added
  obtain ⟨type, dims, yields, shaped, _⟩ := (reshapes.drafts _ label draft).mp drafted
  exact ⟨type, dims, (shows_iff network id function found input type).mpr yields, shaped⟩

theorem reshaping_done (shown : network.Shows id input type) (made : NodeId) (next : Network)
    (added : network.addLayer id label layer = (.ok made, next)) :
    ∃ dims, shape type.dims dims ∧ next.Results id operator type (type.withDims dims) made := by
  obtain ⟨other, dims, again, shaped⟩ :=
    reshaping_input network kept id label layer input operator shape reshapes made next added
  obtain rfl := shown_type_unique network id input type other shown again
  obtain ⟨_, _, addedAgain, results⟩ :=
    reshaping_made network kept id label layer input operator shape reshapes type shown dims shaped
  obtain ⟨⟨⟩, rfl⟩ := Prod.mk.inj (added.symm.trans addedAgain)
  exact ⟨dims, shaped, results⟩

theorem reshaping_accepted_iff (shown : network.Shows id input type) :
    (∃ made, (network.addLayer id label layer).1 = .ok made) ↔ ∃ dims, shape type.dims dims := by
  constructor
  · rintro ⟨made, answered⟩
    obtain ⟨dims, shaped, _⟩ :=
      reshaping_done network kept id label layer input operator shape reshapes type shown made _
      (Prod.ext answered rfl)
    exact ⟨dims, shaped⟩
  · rintro ⟨dims, shaped⟩
    obtain ⟨made, next, added, _⟩ :=
      reshaping_made network kept id label layer input operator shape reshapes type shown dims shaped
    exact ⟨made, congrArg Prod.fst added⟩

end Reshaping

theorem added_layer_persists (network next : Network) (kept : network.Represented) (id : FunctionId)
    (label : String) (layer : Layer) (made : NodeId)
    (added : network.addLayer id label layer = (.ok made, next)) :
      network.Persists next := by
  have changes := add_layer_changes .verify network id label layer
  rw [added] at changes
  exact changes_persist .verify _ _ changes kept

section Later

variable (network later : Network) (laterKept : later.Represented) (id : FunctionId)

include laterKept

theorem shown_type_stands (kept : network.Represented) (persists : network.Persists later) (edge : Edge)
    (type other : TensorType) (shown : network.Shows id edge type) (again : later.Shows id edge other) :
      other = type := by
  obtain ⟨function, found, typed⟩ := shown
  obtain ⟨after, foundAgain, typedAgain⟩ := again
  exact (persists_honours network later persists kept laterKept).edges id id function after edge type
    other found foundAgain typed typedAgain

-- There is one handle for a type, whichever edges lead to it.
theorem shown_types_alike (grows : network.types.Extends later.types) (edge twin : Edge)
    (type : TensorType) (shown : network.Shows id edge type) (again : later.Shows id twin type) :
      network.ShowsAlike later id edge twin type := by
  refine ⟨shown, again, ?_⟩
  obtain ⟨function, found, typed⟩ := shown
  obtain ⟨after, foundAgain, typedAgain⟩ := again
  obtain ⟨handle, resolved, known⟩ := (type_of_iff _ edge type).mp typed
  obtain ⟨other, resolvedAgain, knownAgain⟩ := (type_of_iff _ twin type).mp typedAgain
  have same : handle = other := by
    have stands := (laterKept.types type handle).mpr (grows handle type known)
    exact Option.some.inj (stands.symm.trans ((laterKept.types type other).mpr knownAgain))
  exact ⟨handle, ⟨function, found, resolved⟩, after, foundAgain, same ▸ resolvedAgain⟩

end Later

section Twice

variable (network middle later last : Network) (kept : network.Represented)
  (laterKept : later.Represented) (persists : middle.Persists later) (id : FunctionId) (input : Edge)
  (type : TensorType) (shown : network.Shows id input type) (label secondLabel : String)
  (layer second : Layer) (made b : NodeId) (operator secondOperator : Operator)
  (shape secondShape : Dims → Dims → Prop) (reshapes : layer.Reshapes input operator shape)
  (secondReshapes : second.Reshapes (.ofNode made) secondOperator secondShape)
  (added : network.addLayer id label layer = (.ok made, middle))
  (secondAdded : later.addLayer id secondLabel second = (.ok b, last))

include kept laterKept persists shown reshapes secondReshapes added secondAdded

-- The second of two changes of shape finds what the first one made, whatever was done between them.
theorem second_reshaping_done : ∃ dims result, shape type.dims dims ∧ secondShape dims result ∧
    last.Results id secondOperator (type.withDims dims) (type.withDims result) b := by
  have middleKept := added_layer_kept network middle kept id label layer made added
  obtain ⟨dims, shaped, results⟩ :=
    reshaping_done network kept id label layer input operator shape reshapes type shown made middle added
  obtain ⟨other, _, again, _⟩ :=
    reshaping_input later laterKept id secondLabel second (.ofNode made) secondOperator
    secondShape secondReshapes b last secondAdded
  obtain rfl := shown_type_stands middle later laterKept id middleKept persists (.ofNode made)
    (type.withDims dims) other ((results.shown _).mpr rfl) again
  obtain ⟨result, secondShaped, secondResults⟩ :=
    reshaping_done later laterKept id secondLabel second (.ofNode made)
    secondOperator secondShape secondReshapes _ again b last secondAdded
  exact ⟨dims, result, shaped, secondShaped, secondResults⟩

-- A third one that does both at once comes to the same.
theorem whole_reshaping_made (after : Network) (afterKept : after.Represented)
    (lastPersists : last.Persists after) (still : after.Shows id input type) (wholeLabel : String)
    (whole : Layer) (wholeOperator : Operator) (wholeShape : Dims → Dims → Prop)
    (wholeReshapes : whole.Reshapes input wholeOperator wholeShape)
    (composes : ∀ dims middle result, shape dims middle → secondShape middle result →
      wholeShape dims result) :
    ∃ c final result, after.addLayer id wholeLabel whole = (.ok c, final) ∧
      last.ShowsAlike final id (.ofNode b) (.ofNode c) result := by
  obtain ⟨dims, result, shaped, secondShaped, results⟩ :=
    second_reshaping_done network middle later last kept laterKept
    persists id input type shown label secondLabel layer second made b operator secondOperator shape
      secondShape reshapes
    secondReshapes added secondAdded
  obtain ⟨c, final, wholeAdded, wholeResults⟩ :=
    reshaping_made after afterKept id wholeLabel whole input wholeOperator
    wholeShape wholeReshapes type still result (composes _ _ _ shaped secondShaped)
  have finalKept := added_layer_kept after final afterKept id wholeLabel whole c wholeAdded
  have grows := pool_extends_trans _ _ _ lastPersists.types
    (added_layer_persists after final afterKept id wholeLabel whole c wholeAdded).types
  exact ⟨c, final, type.withDims result, wholeAdded,
    shown_types_alike last final finalKept id grows (.ofNode b) (.ofNode c) _
    ((results.shown _).mpr rfl) ((wholeResults.shown _).mpr rfl)⟩

end Twice

end TensorGraph
