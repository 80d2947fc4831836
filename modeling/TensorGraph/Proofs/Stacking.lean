import TensorGraph.Proofs.ShownTypes

set_option autoImplicit false

namespace TensorGraph

theorem set_entry (dims : Dims) (axis : Nat) (inside : axis < dims.length) (extent : Extent) :
    (dims.set axis extent).getD axis 0 = extent := by
  rw [List.getD_eq_getElem?_getD, List.getElem?_set_self inside]
  rfl

theorem set_own_entry (dims : Dims) (axis : Nat) : dims.set axis (dims.getD axis 0) = dims := by
  refine List.ext_getElem? fun i => ?_
  rw [List.getElem?_set]
  by_cases here : axis = i
  · subst here
    by_cases inside : axis < dims.length
    · simp [inside]
    · simp [inside]
  · rw [if_neg here]

-- Shapes agree off an axis when they are the same once that axis is overwritten, by whatever extent.
theorem agrees_off_iff_set (axis : Nat) (a b : Dims) (extent : Extent) :
    a.AgreesOff axis b ↔ a.set axis extent = b.set axis extent := by
  constructor
  · intro agrees
    refine List.ext_getElem (by rw [List.length_set, List.length_set, agrees.1])
      fun i insideA insideB => ?_
    rw [List.getElem_set, List.getElem_set]
    rw [List.length_set] at insideA insideB
    by_cases here : axis = i
    · rw [if_pos here, if_pos here]
    · rw [if_neg here, if_neg here]
      exact agrees.2 i _ _ (List.getElem?_eq_getElem insideA) (List.getElem?_eq_getElem insideB)
        (Ne.symm here)
  · intro same
    refine ⟨?_, fun i x y atA atB apart => ?_⟩
    · have lengths := congrArg List.length same
      rwa [List.length_set, List.length_set] at lengths
    · have entries := congrArg (·[i]?) same
      simp only [List.getElem?_set_ne (Ne.symm apart), atA, atB] at entries
      exact Option.some.inj entries

theorem agrees_off_trans (axis : Nat) (a b c : Dims) (first : a.AgreesOff axis b)
    (second : b.AgreesOff axis c) :
    a.AgreesOff axis c := by
  rw [agrees_off_iff_set axis _ _ 0] at first second ⊢
  exact first.trans second

theorem agrees_off_set_iff (axis : Nat) (a b : Dims) (extent : Extent) :
    a.AgreesOff axis (b.set axis extent) ↔ a.AgreesOff axis b := by
  rw [agrees_off_iff_set axis a _ 0, agrees_off_iff_set axis a b 0, List.set_set]

theorem stacked_on_append (axis : Nat) (xs ys : List Dims) :
    Dims.stackedOn axis (xs ++ ys) = Dims.stackedOn axis xs + Dims.stackedOn axis ys := by
  induction xs with
  | nil => exact (Nat.zero_add _).symm
  | cons dims rest ih => rw [List.cons_append, Dims.stackedOn, Dims.stackedOn, ih, Nat.add_assoc]

-- Tensors of some types make a stack of a type: the parameters are those of the first.
structure TensorType.StackOf (axis : Nat) (types : List TensorType) (result : TensorType) : Prop where
  inside : axis < result.dims.length
  alike : ∀ type ∈ types, type.element = result.element ∧ type.dims.AgreesOff axis result.dims
  extent : (result.dims.getD axis 0).toNat = Dims.stackedOn axis (types.map TensorType.dims)
  first : types.head?.map TensorType.quantization = some result.quantization

section Types

variable (axis : Nat) (types : List TensorType) (result : TensorType)

theorem stack_of_cons_iff (first : TensorType) :
    TensorType.StackOf axis (first :: types) result ↔ axis < first.rank ∧
    (∀ type ∈ types, type.element = first.element ∧ first.dims.AgreesOff axis type.dims) ∧
    ∃ total : Extent, total.toNat = (first.dims.getD axis 0).toNat +
      Dims.stackedOn axis (types.map TensorType.dims) ∧
      result = first.withDims (first.dims.set axis total) := by
  constructor
  · intro stack
    obtain ⟨⟨element, agrees⟩, alike⟩ := List.forall_mem_cons.mp stack.alike
    have rank : first.rank = result.dims.length := agrees.1
    refine ⟨rank ▸ stack.inside, fun type member => ?_, result.dims.getD axis 0, stack.extent, ?_⟩
    · obtain ⟨same, agreesToo⟩ := alike type member
      exact ⟨same.trans element.symm, agrees_off_trans axis _ _ _ agrees
        ((agrees_off_comm axis _ _).mp agreesToo)⟩
    · have scaled : first.quantization = result.quantization := Option.some.inj stack.first
      rw [(agrees_off_iff_set axis _ _ _).mp agrees, set_own_entry, TensorType.withDims, element, scaled]
  · rintro ⟨inside, alike, total, sum, rfl⟩
    have rank : (first.dims.set axis total).length = first.rank := List.length_set
    refine ⟨rank.symm ▸ inside, List.forall_mem_cons.mpr ⟨⟨rfl, ?_⟩, fun type member => ?_⟩, ?_, rfl⟩
    · exact (agrees_off_set_iff axis _ _ total).mpr ((agrees_off_iff_set axis _ _ 0).mpr rfl)
    · obtain ⟨same, agrees⟩ := alike type member
      exact ⟨same, (agrees_off_set_iff axis _ _ total).mpr ((agrees_off_comm axis _ _).mp agrees)⟩
    · exact (congrArg UInt64.toNat (set_entry first.dims axis inside total)).trans sum

theorem stack_filled (stack : TensorType.StackOf axis types result) :
    ∃ first rest, types = first :: rest := by
  cases types with
  | nil => cases stack.first
  | cons first rest => exact ⟨first, rest, rfl⟩

variable (others : List TensorType)

-- Part of a stack: as the whole, but for the extent on the axis and for the parameters.
theorem part_of_stack (part : List TensorType) (filled : part ≠ []) (inside : axis < result.dims.length)
    (alike : ∀ type ∈ part, type.element = result.element ∧ type.dims.AgreesOff axis result.dims)
    (fits : Dims.stackedOn axis (part.map TensorType.dims) ≤ (result.dims.getD axis 0).toNat) :
    ∃ stack, TensorType.StackOf axis part stack ∧ stack.element = result.element ∧
      stack.dims.AgreesOff axis result.dims := by
  obtain ⟨first, rest, rfl⟩ := List.exists_cons_of_ne_nil filled
  obtain ⟨extent, same⟩ := extent_below _ _ fits
  refine ⟨⟨result.element, result.dims.set axis extent, first.quantization⟩,
    ⟨?_, fun type member => ?_, ?_, rfl⟩, rfl, ?_⟩
  · rwa [List.length_set]
  · obtain ⟨element, agrees⟩ := alike type member
    exact ⟨element, (agrees_off_set_iff axis _ _ extent).mpr agrees⟩
  · exact (congrArg UInt64.toNat (set_entry result.dims axis inside extent)).trans same
  · exact (agrees_off_comm axis _ _).mpr
      ((agrees_off_set_iff axis _ _ extent).mpr ((agrees_off_iff_set axis _ _ 0).mpr rfl))

theorem stack_append_iff (filled : types ≠ []) (othersFilled : others ≠ []) :
    TensorType.StackOf axis (types ++ others) result ↔ ∃ left right, TensorType.StackOf axis types left ∧
      TensorType.StackOf axis others right ∧ TensorType.StackOf axis [left, right] result := by
  have heads : (types ++ others).head? = types.head? := by
    obtain ⟨first, rest, rfl⟩ := List.exists_cons_of_ne_nil filled
    rfl
  constructor
  · intro whole
    have sum := whole.extent
    rw [List.map_append, stacked_on_append] at sum
    obtain ⟨alike, alikeToo⟩ := List.forall_mem_append.mp whole.alike
    obtain ⟨left, leftStack, leftElement, leftAgrees⟩ :=
      part_of_stack axis result types filled whole.inside alike (sum ▸ Nat.le_add_right _ _)
    obtain ⟨right, rightStack, rightElement, rightAgrees⟩ :=
      part_of_stack axis result others othersFilled whole.inside alikeToo (sum ▸ Nat.le_add_left _ _)
    refine ⟨left, right, leftStack, rightStack, whole.inside, ?_, ?_, ?_⟩
    · exact List.forall_mem_cons.mpr ⟨⟨leftElement, leftAgrees⟩,
        List.forall_mem_singleton.mpr ⟨rightElement, rightAgrees⟩⟩
    · rw [sum, ← leftStack.extent, ← rightStack.extent]
      rfl
    · exact leftStack.first.symm.trans (heads ▸ whole.first)
  · rintro ⟨left, right, leftStack, rightStack, whole⟩
    obtain ⟨⟨leftElement, leftAgrees⟩, rest⟩ := List.forall_mem_cons.mp whole.alike
    obtain ⟨rightElement, rightAgrees⟩ := List.forall_mem_singleton.mp rest
    refine ⟨whole.inside,
      List.forall_mem_append.mpr ⟨fun type member => ?_, fun type member => ?_⟩, ?_, ?_⟩
    · obtain ⟨element, agrees⟩ := leftStack.alike type member
      exact ⟨element.trans leftElement, agrees_off_trans axis _ _ _ agrees leftAgrees⟩
    · obtain ⟨element, agrees⟩ := rightStack.alike type member
      exact ⟨element.trans rightElement, agrees_off_trans axis _ _ _ agrees rightAgrees⟩
    · rw [List.map_append, stacked_on_append, ← leftStack.extent, ← rightStack.extent]
      exact whole.extent
    · exact heads ▸ leftStack.first.trans whole.first

theorem stack_unique (other : TensorType) (stack : TensorType.StackOf axis types result)
    (again : TensorType.StackOf axis types other) : result = other := by
  obtain ⟨first, rest, rfl⟩ := stack_filled axis types result stack
  obtain ⟨_, _, total, sum, rfl⟩ := (stack_of_cons_iff axis rest result first).mp stack
  obtain ⟨_, _, otherTotal, otherSum, rfl⟩ := (stack_of_cons_iff axis rest other first).mp again
  rw [UInt64.toNat_inj.mp (sum.trans otherSum.symm)]

end Types

-- A stack along an axis can be made of what the edges lead to, and is of that type.
def Network.Stacks (network : Network) (id : FunctionId) (edges : List Edge) (axis : Extent)
    (result : TensorType) : Prop :=
  ∃ types, List.Forall₂ (network.Shows id) edges types ∧ TensorType.StackOf axis.toNat types result

theorem concat_drafted_iff (scope : Scope) (label : String) (edges : List Edge) (axis : Extent)
    (draft : Draft) :
    scope.draft label (.concat edges axis) = .ok draft ↔
      ∃ types result, List.Forall₂ scope.Yields edges types ∧
      TensorType.StackOf axis.toNat types result ∧
      draft = { label := label, operator := .concat axis, operands := edges.map .given,
                results := [result] } := by
  cases edges with
  | nil =>
      refine iff_of_false nofun ?_
      rintro ⟨_, result, ⟨⟩, stack, _⟩
      cases stack.first
  | cons edge rest =>
      simp only [Scope.draft, bind_ok_iff, some_unit_iff, operand_iff, require_ok_iff, stack_all_iff,
        Except.ok.injEq]
      constructor
      · rintro ⟨type, typed, inside, total, ⟨types, later, alike, sum⟩, rfl⟩
        exact ⟨type :: types, _, .cons typed later,
          (stack_of_cons_iff _ types _ type).mpr ⟨inside, alike, total, sum, rfl⟩, rfl⟩
      · rintro ⟨_, result, typed, stack, rfl⟩
        cases typed with
        | @cons _ type _ types typed later =>
            obtain ⟨inside, alike, total, sum, rfl⟩ := (stack_of_cons_iff _ types result type).mp stack
            exact ⟨type, typed, inside, total, ⟨types, later, alike, sum⟩, rfl⟩

section Requests

variable (network : Network) (id : FunctionId) (edges : List Edge) (axis : Extent)

theorem stacks_drafted (result : TensorType) (stacking : network.Stacks id
    edges axis result) (label : String) :
    ∃ function draft, network.function? id = some function ∧
      (network.scopeOf function).draft label (.concat edges axis) = .ok draft := by
  obtain ⟨types, shown, stack⟩ := stacking
  obtain ⟨first, rest, rfl⟩ := stack_filled _ types result stack
  obtain ⟨edge, _, _, _, rfl⟩ := List.forall₂_cons_right_iff.mp shown
  obtain ⟨⟨function, found, _⟩, _⟩ := List.forall₂_cons.mp shown
  exact ⟨function, _, found, (concat_drafted_iff ..).mpr
    ⟨_, result, (shown_all_iff network id function found _ _).mp shown, stack, rfl⟩⟩

theorem shown_alike (next : Network)
    (alike : ∀ edge ∈ edges, ∀ type, next.Shows id edge type ↔ network.Shows id edge type)
    (result : TensorType) : next.Stacks id edges axis result ↔ network.Stacks id edges axis result := by
  constructor
  · rintro ⟨types, shown, stack⟩
    exact ⟨types, ((List.forall₂_and_left _ _).mpr ⟨alike, shown⟩).imp
      fun _ type both => (both.1 type).mp both.2, stack⟩
  · rintro ⟨types, shown, stack⟩
    exact ⟨types, ((List.forall₂_and_left _ _).mpr ⟨alike, shown⟩).imp
      fun _ type both => (both.1 type).mpr both.2, stack⟩

-- Stacks are told apart into those of a first and of a second part of the edges.
theorem stacks_append_iff (others : List Edge) (filled : edges ≠ []) (othersFilled : others ≠ [])
    (result : TensorType) :
    network.Stacks id (edges ++ others) axis result ↔ ∃ left right, network.Stacks id edges axis left ∧
      network.Stacks id others axis right ∧ TensorType.StackOf axis.toNat [left, right] result := by
  have covered : ∀ (list : List Edge) (types : List TensorType), list ≠ [] →
      List.Forall₂ (network.Shows id) list types →
      types ≠ [] := by
    rintro list types full shown rfl
    exact full (List.forall₂_nil_right_iff.mp shown)
  constructor
  · rintro ⟨types, shown, stack⟩
    have first := List.Forall₂.flip (List.forall₂_take_append types edges others shown.flip)
    have second := List.Forall₂.flip (List.forall₂_drop_append types edges others shown.flip)
    rw [← List.take_append_drop edges.length types] at stack
    obtain ⟨left, right, leftStack, rightStack, whole⟩ :=
      (stack_append_iff _ _ result _ (covered _ _ filled first)
      (covered _ _ othersFilled second)).mp stack
    exact ⟨left, right, ⟨_, first, leftStack⟩, ⟨_, second, rightStack⟩, whole⟩
  · rintro ⟨left, right, ⟨types, first, leftStack⟩, ⟨more, second, rightStack⟩, whole⟩
    exact ⟨types ++ more, List.rel_append first second,
      (stack_append_iff _ _ result _ (covered _ _ filled first)
      (covered _ _ othersFilled second)).mpr ⟨left, right, leftStack, rightStack, whole⟩⟩

end Requests

-- What a layer that has made a stack changes of what its function shows.
structure Network.Piles (network : Network) (id : FunctionId) (edges : List Edge) (axis : Extent)
    (made : NodeId) (next : Network) (result : TensorType) : Prop where
  stacking : network.Stacks id edges axis result
  number : made = ⟨network.nextNode⟩
  later : next.nextNode = network.nextNode + 1
  top : ∀ type, next.Shows id (.ofNode made) type ↔ type = result
  below : ∀ edge, edge ≠ .ofNode made → ∀ type, next.Shows id edge type ↔ network.Shows id edge type

section Answers

variable (network next : Network) (kept : network.Represented) (id : FunctionId) (label : String)
  (edges : List Edge) (axis : Extent) (made : NodeId)

theorem stacks_unique (result other : TensorType) (stacking : network.Stacks id edges axis result)
    (again : network.Stacks id edges axis other) : result = other := by
  obtain ⟨types, shown, stack⟩ := stacking
  obtain ⟨_, shownAgain, stackAgain⟩ := again
  have single : Relator.RightUnique (network.Shows id) := fun edge
    type twin => shown_type_unique network id edge type twin
  obtain rfl := single.forall₂ shown shownAgain
  exact stack_unique axis.toNat types result other stack stackAgain

include kept

theorem added_stack_piles (added : network.addLayer id label (.concat edges axis) = (.ok made, next)) :
    ∃ result, network.Piles id edges axis made next result := by
  have nextKept := added_layer_kept network next kept id label _ made added
  obtain ⟨function, draft, found, drafted, reveals⟩ :=
    added_layer_reveals network next kept id label _ made added
  obtain ⟨types, result, yields, stack, rfl⟩ := (concat_drafted_iff ..).mp drafted
  exact ⟨result, ⟨types, (shown_all_iff network id function found
    edges types).mpr yields, stack⟩, reveals.number, reveals.later,
    lone_result_shown network next id _ made reveals result rfl,
    lone_result_apart network next kept nextKept id _ made reveals rfl result rfl⟩

theorem stack_added (result : TensorType) (stacking : network.Stacks id edges axis result) :
    ∃ made next, network.addLayer id label (.concat edges axis) = (.ok made, next) ∧ next.Represented ∧
      network.Piles id edges axis made next result := by
  have spared : ∀ scope result, ¬ (Layer.concat edges axis).Unscaled scope result :=
    fun _ _ unscaled => by cases unscaled
  obtain ⟨made, answered⟩ := (layer_added_iff network kept id label _ spared).mpr
    (stacks_drafted network id edges axis result stacking label)
  have added : network.addLayer id label (.concat edges axis) = (.ok made, _) := Prod.ext answered rfl
  obtain ⟨other, piles⟩ := added_stack_piles network _ kept id label edges axis made added
  obtain rfl := stacks_unique network id edges axis result other stacking piles.stacking
  exact ⟨made, _, added, added_layer_kept network _ kept id label _ made added, piles⟩

end Answers

section Nested

variable (network middle last : Network) (kept : network.Represented) (id : FunctionId) (axis : Extent)
  (xs ys : List Edge) (a b : NodeId) (one two : TensorType)

-- Once two stacks are made, the second one on what was there before the first, both are at hand.
theorem both_stacks_shown (first : network.Piles id xs axis a middle one)
    (second : middle.Piles id ys axis b last two) (result : TensorType) :
    last.Stacks id [.ofNode a, .ofNode b] axis result ↔
      TensorType.StackOf axis.toNat [one, two] result := by
  have apart : Edge.ofNode a ≠ .ofNode b := by
    intro same
    have numbers : network.nextNode = network.nextNode + 1 := by
      rw [first.number, second.number, first.later] at same
      injection same with producer
      injection producer with number
      injection number
    omega
  have showsOne : last.Shows id (.ofNode a) one :=
    (second.below _ apart one).mpr ((first.top one).mpr rfl)
  have showsTwo : last.Shows id (.ofNode b) two := (second.top two).mpr rfl
  constructor
  · rintro ⟨types, shown, stack⟩
    obtain ⟨type, _, here, rest, rfl⟩ := List.forall₂_cons_left_iff.mp shown
    obtain ⟨other, _, there, none, rfl⟩ := List.forall₂_cons_left_iff.mp rest
    obtain rfl := List.forall₂_nil_left_iff.mp none
    rwa [shown_type_unique last id _ _ _ showsOne here, shown_type_unique last id _ _ _ showsTwo there]
  · exact fun stack => ⟨[one, two], .cons showsOne (.cons showsTwo .nil), stack⟩

theorem old_edges_stack (first : network.Piles id xs axis a middle one)
    (old : Edge.ofNode ⟨network.nextNode⟩ ∉ ys)
    (result : TensorType) : middle.Stacks id ys axis result ↔ network.Stacks id ys axis result := by
  rw [← first.number] at old
  exact shown_alike network id ys axis middle (fun edge listed => first.below edge
    fun same => old (same ▸ listed)) result

include kept

theorem stacked_edges_old (result : TensorType) (stacking : network.Stacks id ys axis result) :
    Edge.ofNode ⟨network.nextNode⟩ ∉ ys := by
  intro listed
  obtain ⟨types, shown, _⟩ := stacking
  obtain ⟨type, _, here⟩ := related_source _ _ _ shown.flip _ listed
  exact Nat.lt_irrefl _ (shown_edge_issued network kept id _ type here)

variable (left right whole : String)

theorem nested_stack_made (result : TensorType) (first : network.Stacks id xs axis one)
    (second : network.Stacks id ys axis two)
    (both : TensorType.StackOf axis.toNat [one, two] result) : ∃ a middle b last made next,
      network.addLayer id left (.concat xs axis) = (.ok a, middle) ∧
      middle.addLayer id right (.concat ys axis) = (.ok b, last) ∧
      last.addLayer id whole (.concat [.ofNode a, .ofNode b] axis) = (.ok made, next) := by
  have old := stacked_edges_old network kept id axis ys two second
  obtain ⟨a, middle, firstAdded, middleKept, firstPiles⟩ :=
    stack_added network kept id left xs axis one first
  have later := (old_edges_stack network middle id axis xs ys a one firstPiles old two).mpr second
  obtain ⟨b, last, secondAdded, lastKept, secondPiles⟩ :=
    stack_added middle middleKept id right ys axis two later
  have pair :=
    (both_stacks_shown network middle last id axis xs ys a b one two firstPiles secondPiles
      result).mpr both
  obtain ⟨made, next, added, _, _⟩ := stack_added last lastKept id whole _ axis result pair
  exact ⟨a, middle, b, last, made, next, firstAdded, secondAdded, added⟩

theorem nested_stack_parts (made : NodeId) (next : Network) (old : Edge.ofNode ⟨network.nextNode⟩ ∉ ys)
    (first : network.addLayer id left (.concat xs axis) = (.ok a, middle))
    (second : middle.addLayer id right (.concat ys axis) = (.ok b, last))
    (third : last.addLayer id whole (.concat [.ofNode a, .ofNode b] axis) = (.ok made, next)) :
    ∃ one two result, network.Stacks id xs axis one ∧ network.Stacks id ys axis two ∧
      TensorType.StackOf axis.toNat [one, two] result ∧ next.Shows id (.ofNode made) result := by
  have middleKept := added_layer_kept network middle kept id left _ a first
  have lastKept := added_layer_kept middle last middleKept id right _ b second
  obtain ⟨one, firstPiles⟩ := added_stack_piles network middle kept id left xs axis a first
  obtain ⟨two, secondPiles⟩ := added_stack_piles middle last middleKept id right ys axis b second
  obtain ⟨result, piles⟩ := added_stack_piles last next lastKept id whole _ axis made third
  refine ⟨one, two, result, firstPiles.stacking, ?_, ?_, (piles.top result).mpr rfl⟩
  · exact (old_edges_stack network middle id axis xs ys a one firstPiles old two).mp secondPiles.stacking
  · exact (both_stacks_shown network middle last id axis xs ys a b one two firstPiles secondPiles
      result).mp piles.stacking

end Nested

-- How a stack is made does not matter, all at once or as a stack of two stacks: neither to whether it
-- can be made, sums of extents that need more than 64 bits included, nor to its type. Only an edge drawn
-- ahead to the first of the two stacks can be put on the second one while it cannot be put on the whole
-- at once.
theorem stacking_is_associative (settings : Settings) (actions : List Action) (id : FunctionId)
    (axis : Extent) (label left right whole : String) (xs ys : List Edge) (filled : xs ≠ [])
    (othersFilled : ys ≠ []) :
    let network := Network.run settings .empty actions
    let flat := network.addLayer id label (.concat (xs ++ ys) axis)
    let first := network.addLayer id left (.concat xs axis)
    let second := first.2.addLayer id right (.concat ys axis)
    let nested := fun a b => second.2.addLayer id whole (.concat [.ofNode a, .ofNode b] axis)
    ((∃ made, flat.1 = .ok made) ↔ Edge.ofNode ⟨network.nextNode⟩ ∉ ys ∧
      ∃ a b made, first.1 = .ok a ∧ second.1 = .ok b ∧ (nested a b).1 = .ok made) ∧
    ∀ a b made other, flat.1 = .ok made → first.1 = .ok a → second.1 = .ok b →
      (nested a b).1 = .ok other →
      ∃ type, flat.2.Shows id (.ofNode made) type ∧ (nested a b).2.Shows id (.ofNode other) type := by
  intro network flat first second nested
  have kept : network.Represented := run_represented settings .empty actions empty_represented
  have apart := stacks_append_iff network id xs axis ys filled othersFilled
  refine ⟨⟨?_, ?_⟩, ?_⟩
  · rintro ⟨made, answered⟩
    obtain ⟨result, piles⟩ :=
      added_stack_piles network flat.2 kept id label _ axis made (Prod.ext answered rfl)
    obtain ⟨one, two, oneStacks, twoStacks, both⟩ := (apart result).mp piles.stacking
    refine ⟨stacked_edges_old network kept id axis ys two twoStacks, ?_⟩
    obtain ⟨a, middle, b, last, made, next, firstAdded, secondAdded, added⟩ :=
      nested_stack_made network kept id axis xs ys one two left right whole result oneStacks
        twoStacks both
    refine ⟨a, b, made, congrArg Prod.fst firstAdded, ?_, ?_⟩
    · simp only [second, first, firstAdded, secondAdded]
    · simp only [nested, second, first, firstAdded, secondAdded, added]
  · rintro ⟨old, a, b, made, firstAnswered, secondAnswered, answered⟩
    obtain ⟨one, two, result, oneStacks, twoStacks, both, _⟩ :=
      nested_stack_parts network first.2 second.2 kept id axis xs ys
      a b left right whole made _ old (Prod.ext firstAnswered rfl) (Prod.ext secondAnswered rfl)
        (Prod.ext answered rfl)
    obtain ⟨made, next, added, _⟩ := stack_added network kept id label _ axis result
      ((apart result).mpr ⟨one, two, oneStacks, twoStacks, both⟩)
    exact ⟨made, congrArg Prod.fst added⟩
  · intro a b made other answered firstAnswered secondAnswered otherAnswered
    obtain ⟨result, piles⟩ :=
      added_stack_piles network flat.2 kept id label _ axis made (Prod.ext answered rfl)
    obtain ⟨_, two, _, twoStacks, _⟩ := (apart result).mp piles.stacking
    have old := stacked_edges_old network kept id axis ys two twoStacks
    obtain ⟨one, two, same, oneStacks, twoStacks, both, shown⟩ :=
      nested_stack_parts network first.2 second.2 kept id axis xs ys
      a b left right whole other _ old (Prod.ext firstAnswered rfl) (Prod.ext secondAnswered rfl)
        (Prod.ext otherAnswered rfl)
    have again := (apart same).mpr ⟨one, two, oneStacks, twoStacks, both⟩
    obtain rfl := stacks_unique network id _ axis result same piles.stacking again
    exact ⟨result, (piles.top result).mpr rfl, shown⟩

-- Two quantized tensors of different parameters, all at once and by way of two stacks of one.
theorem quantized_stacks_are_associative :
    let network := Network.run {} .empty [.createFunction "f",
      .createVariable ⟨.quantized .int8Q [2, 3] ⟨0x3f000000⟩ 2, "x", .external, .none⟩,
      .createVariable ⟨.quantized .int8Q [2, 1] ⟨0x3f800000⟩ 0, "y", .external, .none⟩]
    let xs := [Edge.ofVariable ⟨0⟩]
    let ys := [Edge.ofVariable ⟨1⟩]
    let flat := network.addLayer ⟨0⟩ "c" (.concat (xs ++ ys) 1)
    let parts := ((network.addLayer ⟨0⟩ "a" (.concat xs 1)).2.addLayer ⟨0⟩ "b" (.concat ys 1)).2
    let nested := parts.addLayer ⟨0⟩ "d" (.concat [.ofNode ⟨0⟩, .ofNode ⟨1⟩] 1)
    (∃ made, flat.1 = .ok made) ∧
      flat.2.Shows ⟨0⟩ (.ofNode ⟨0⟩) (.quantized .int8Q [2, 4] ⟨0x3f000000⟩ 2) ∧
      nested.2.Shows ⟨0⟩ (.ofNode ⟨2⟩) (.quantized .int8Q [2, 4] ⟨0x3f000000⟩ 2) := by
  intro network xs ys flat parts nested
  obtain ⟨accepted, same⟩ :=
    stacking_is_associative {} _ ⟨0⟩ 1 "c" "a" "b" "d" xs ys (by simp [xs]) (by simp [ys])
  obtain ⟨a, b, other⟩ : (network.addLayer ⟨0⟩ "a" (.concat xs 1)).1 = .ok ⟨0⟩ ∧
      ((network.addLayer ⟨0⟩ "a" (.concat xs 1)).2.addLayer ⟨0⟩ "b" (.concat ys 1)).1 = .ok ⟨1⟩ ∧
        nested.1 = .ok ⟨2⟩ := by
    decide +kernel
  obtain ⟨made, answered⟩ := accepted.mpr ⟨by decide +kernel, ⟨0⟩, ⟨1⟩, ⟨2⟩, a, b, other⟩
  have number : flat.1 = .ok ⟨0⟩ := by decide +kernel
  obtain rfl := Except.ok.inj (number.symm.trans answered)
  obtain ⟨type, shown, nestedShown⟩ := same ⟨0⟩ ⟨1⟩ ⟨0⟩ ⟨2⟩ answered a b other
  obtain ⟨function, found, typed⟩ := shown
  let whole : Node := ⟨⟨0⟩, "c__2", .concat 1, xs ++ ys, [⟨2⟩], none⟩
  let home : Function := { id := ⟨0⟩, name := "f", nodes := [whole], positions := [(⟨0⟩, 0)] }
  have stored : flat.2.function? ⟨0⟩ = some home := by decide +kernel
  obtain rfl := Option.some.inj (stored.symm.trans found)
  have known : (flat.2.scopeOf home).typeOf (.ofNode ⟨0⟩) =
      .ok (.quantized .int8Q [2, 4] ⟨0x3f000000⟩ 2) := by decide +kernel
  obtain rfl := Except.ok.inj (known.symm.trans typed)
  exact ⟨⟨⟨0⟩, answered⟩, ⟨_, found, typed⟩, nestedShown⟩

-- The number of the first stack can stand among the operands of the second one before there is a node of
-- that number.
theorem edge_drawn_ahead_stacks_late :
    let network := Network.run {} .empty [.createFunction "f",
      .createVariable ⟨.plain .float [2], "x", .external, .none⟩]
    let xs := [Edge.ofVariable ⟨0⟩]
    let ys := [Edge.ofNode ⟨0⟩]
    let flat := network.addLayer ⟨0⟩ "c" (.concat (xs ++ ys) 0)
    let first := network.addLayer ⟨0⟩ "a" (.concat xs 0)
    let second := first.2.addLayer ⟨0⟩ "b" (.concat ys 0)
    let nested := second.2.addLayer ⟨0⟩ "d" (.concat [.ofNode ⟨0⟩, .ofNode ⟨1⟩] 0)
    first.1 = .ok ⟨0⟩ ∧ second.1 = .ok ⟨1⟩ ∧ nested.1 = .ok ⟨2⟩ ∧ ¬ ∃ made, flat.1 = .ok made := by
  intro network xs ys flat first second nested
  have refused : flat.1 = .error (.unknownOperand "c" (.ofNode ⟨0⟩)) := by decide +kernel
  exact ⟨by
    decide +kernel, by decide +kernel, by decide +kernel, fun ⟨made, answered⟩ => by
      cases refused.symm.trans answered⟩

end TensorGraph
