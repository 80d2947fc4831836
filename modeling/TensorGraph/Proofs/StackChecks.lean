import TensorGraph.Proofs.Provisions
import TensorGraph.Proofs.Stacking

set_option autoImplicit false

namespace TensorGraph

-- The first `i` of some types can be stacked.
structure TensorType.StacksUpTo (first : TensorType) (axis : Nat) (types : List TensorType)
    (i : Nat) : Prop where
  alike : ∀ type ∈ types.take i, first.dims.AgreesOff axis type.dims
  fits : Dims.stackedOn axis ((types.take i).map TensorType.dims) < UInt64.size

-- What is wrong with a stack, as a layer says it and as the rule for shapes does. They blame the same
-- tensor for the same thing, and it is the first one that does not fit.
inductive StackFaults (label : String) (axis : Extent) (first : TensorType) (types : List TensorType) :
    GraphFault → ShapeFault → Prop where
  | axis (outside : first.rank ≤ axis.toNat) :
      StackFaults label axis first types (.invalidAttribute label (.concatAxis axis first))
        (.concatAxis axis first.rank)
  | rank (i : Nat) (type : TensorType) (listed : types[i]? = some type)
      (below : first.StacksUpTo axis.toNat types i)
      (unequal : type.rank ≠ first.rank) :
      StackFaults label axis first types (.rankMismatch label first.rank type.rank)
        (.concatShape i type.dims first.dims axis)
  | shape (i : Nat) (type : TensorType) (listed : types[i]? = some type)
      (below : first.StacksUpTo axis.toNat types i)
      (equal : type.rank = first.rank) (apart : ¬ first.dims.AgreesOff axis.toNat type.dims) :
      StackFaults label axis first types
        (.shapeMismatch label (first.dims.set axis.toNat (type.dims.getD axis.toNat 0)) type.dims)
        (.concatShape i type.dims first.dims axis)
  | extent (i : Nat) (type : TensorType) (listed : types[i]? = some type)
      (below : first.StacksUpTo axis.toNat types i)
      (agrees : first.dims.AgreesOff axis.toNat type.dims)
      (beyond : UInt64.size ≤ Dims.stackedOn axis.toNat ((types.take (i + 1)).map TensorType.dims)) :
      StackFaults label axis first types (.invalidAttribute label (.shape (.concatOverflow axis)))
        (.concatOverflow axis)

-- Outcomes with the same result, or with faults that belong together.
inductive OutcomesAgree {ε δ α : Type} (together : ε → δ → Prop) : Except ε α → Except δ α → Prop where
  | ok (result : α) : OutcomesAgree together (.ok result) (.ok result)
  | error (fault : ε) (other : δ) (belong : together fault other) :
      OutcomesAgree together (.error fault) (.error other)

section Agreement

variable {ε δ α : Type} (together : ε → δ → Prop)

theorem agreeing_faults_iff (outcome : Except ε α) (other : Except δ α)
    (agree : OutcomesAgree together outcome other) :
    (∃ fault, outcome = .error fault) ↔ ∃ fault, other = .error fault := by
  cases agree with
  | ok result => exact iff_of_false nofun nofun
  | error fault otherFault _ => exact iff_of_true ⟨fault, rfl⟩ ⟨otherFault, rfl⟩

theorem agreeing_results (result other : α) (agree : OutcomesAgree together (.ok result) (.ok other)) :
    result = other := by
  cases agree with
  | ok => rfl

theorem agreeing_faults (fault : ε) (other : δ)
    (agree : OutcomesAgree together (.error fault : Except ε α) (.error other)) :
      together fault other := by
  cases agree with
  | error _ _ belong => exact belong

end Agreement

-- One more shape on a stack, as the rule for shapes takes it.
def Dims.stackedNext (first : Dims) (axis : Extent) (position : Nat) (total : Extent) (dims : Dims) :
    Except ShapeFault Extent :=
  if first.agreeExcept axis.toNat dims then
    match total.add? (dims.getD axis.toNat 0) with
    | some total => .ok total
    | none => .error (.concatOverflow axis)
  else .error (.concatShape position dims first axis)

theorem stacked_extent_step (first : Dims) (axis : Extent) (position : Nat) (total : Extent)
    (dims : Dims) (rest : List Dims) :
    Dims.stackedExtent first axis position total (dims :: rest) = (do
      let total ← first.stackedNext axis position total dims
      Dims.stackedExtent first axis (position + 1) total rest) := by
  rw [Dims.stackedExtent, Dims.stackedNext]
  by_cases agrees : first.agreeExcept axis.toNat dims = true
  · rw [if_pos agrees, if_pos agrees]
    cases total.add? (dims.getD axis.toNat 0) with
    | none => rfl
    | some sum => rfl
  · rw [if_neg agrees, if_neg agrees]
    rfl

section Stack

variable (label : String) (axis : Extent) (first : TensorType) (before : List TensorType)
  (total : Extent) (alike : ∀ type ∈ before, first.dims.AgreesOff axis.toNat type.dims)
  (sum : total.toNat = Dims.stackedOn axis.toNat (before.map TensorType.dims))

include alike sum

theorem stacks_up_to_here (rest : List TensorType) :
    first.StacksUpTo axis.toNat (before ++ rest) before.length := by
  refine ⟨?_, ?_⟩
  · rwa [List.take_left]
  · rw [List.take_left, ← sum]
    exact total.toNat_lt

-- The step of both loops. The layer looks at the rank first, and at the axes only if it is that of the
-- first tensor.
theorem stacked_alike (type : TensorType) (rest : List TensorType)
    (kind : type.element = first.element) :
    OutcomesAgree (StackFaults label axis first (before ++ type :: rest))
      (Layer.stacked label axis first total type)
      (first.dims.stackedNext axis before.length total type.dims) := by
  have below := stacks_up_to_here axis first before total alike sum (type :: rest)
  have listed : (before ++ type :: rest)[before.length]? = some type := by simp
  by_cases equal : type.rank = first.rank
  · by_cases agrees : first.dims.AgreesOff axis.toNat type.dims
    · have within : Dims.agreeFrom 0 axis.toNat type.dims first.dims = true :=
        (agree_from_iff 0 axis.toNat _ _).mpr fun i x y atX atY apart =>
          ((agrees_off_comm axis.toNat _ _).mp agrees).2 i x y atX atY (by rwa [Nat.zero_add] at apart)
      have passes := (agree_except_iff axis.toNat _ _).mpr agrees
      cases added : total.add? (type.dims.getD axis.toNat 0) with
      | some larger =>
          simp only [Layer.stacked, Dims.stackedNext, require, kind, equal, within, passes,
            added, if_true]
          exact .ok larger
      | none =>
          simp only [Layer.stacked, Dims.stackedNext, require, kind, equal, within, passes,
            added, if_true]
          refine .error _ _ (.extent before.length type listed below agrees ?_)
          rw [List.take_length_add_append, List.take_succ_cons, List.take_zero, List.map_append,
            stacked_on_append, ← sum]
          exact extent_overflow _ _ added
    · have differs : Dims.agreeFrom 0 axis.toNat type.dims first.dims ≠ true := fun within => agrees <|
        (agrees_off_comm axis.toNat _ _).mp ⟨equal, fun i x y atX atY apart =>
          (agree_from_iff 0 axis.toNat _ _).mp within i x y atX atY (by rwa [Nat.zero_add])⟩
      have refused : first.dims.agreeExcept axis.toNat type.dims ≠ true := fun passes =>
        agrees ((agree_except_iff axis.toNat _ _).mp passes)
      simp only [Layer.stacked, Dims.stackedNext, require, kind, equal, if_neg differs,
        if_neg refused, if_true]
      exact .error _ _ (.shape before.length type listed below equal agrees)
  · have refused : first.dims.agreeExcept axis.toNat type.dims ≠ true := fun passes =>
      equal ((agree_except_iff axis.toNat _ _).mp passes).1.symm
    simp only [Layer.stacked, Dims.stackedNext, require, kind, if_neg equal, if_neg refused, if_true]
    exact .error _ _ (.rank before.length type listed below equal)

end Stack

section Loops

variable (scope : Scope) (label : String) (axis : Extent) (first : TensorType)

-- Both loops have put the same tensors on the stack, so the next one is welcome to both or to neither.
theorem loops_alike (before rest : List TensorType) (edges : List Edge)
    (yields : List.Forall₂ scope.Yields edges rest)
    (kinds : ∀ type ∈ rest, type.element = first.element) (total : Extent)
    (alike : ∀ type ∈ before, first.dims.AgreesOff axis.toNat type.dims)
    (sum : total.toNat = Dims.stackedOn axis.toNat (before.map TensorType.dims)) :
    OutcomesAgree (StackFaults label axis first (before ++ rest))
      (scope.stackAll label axis first total edges)
      (Dims.stackedExtent first.dims axis before.length total (rest.map TensorType.dims)) := by
  induction yields generalizing before total with
  | nil => exact .ok total
  | @cons edge type others rest typed _ ih =>
      obtain ⟨kind, laterKinds⟩ := List.forall_mem_cons.mp kinds
      have step := stacked_alike label axis first before total alike sum type rest kind
      have given : scope.operand label edge = .ok type := (operand_iff scope label edge type).mpr typed
      rw [List.map_cons, stacked_extent_step, Scope.stackAll, given]
      generalize grown : Layer.stacked label axis first total type = outcome at step
      generalize other : first.dims.stackedNext axis before.length total type.dims = shaped at step
      cases step with
      | error fault shapeFault belong =>
          simp only [bind, Except.bind, grown]
          exact .error fault shapeFault belong
      | ok larger =>
          obtain ⟨⟨_, agrees⟩, increased⟩ := (stacked_iff label axis first type total larger).mp grown
          have alikeToo : ∀ other ∈ before ++ [type], first.dims.AgreesOff axis.toNat other.dims :=
            List.forall_mem_append.mpr ⟨alike, List.forall_mem_singleton.mpr agrees⟩
          have sumToo : larger.toNat = Dims.stackedOn axis.toNat
              ((before ++ [type]).map TensorType.dims) := by
            rw [List.map_append, stacked_on_append, ← sum]
            exact increased
          have next := ih (before ++ [type]) laterKinds larger alikeToo sumToo
          rw [List.length_append, List.length_singleton, ← List.append_cons] at next
          simp only [bind, Except.bind, grown]
          exact next

variable (edges : List Edge) (rest : List TensorType)
  (yields : List.Forall₂ scope.Yields edges (first :: rest))
  (kinds : ∀ type ∈ rest, type.element = first.element)

include yields kinds

-- The layer starts with the extent of the first tensor, the rule for shapes with zero and the same
-- tensor.
theorem concat_alike : OutcomesAgree (StackFaults label axis first (first :: rest))
    ((scope.draft label (.concat edges axis)).map Draft.results)
    ((Dims.concat axis ((first :: rest).map TensorType.dims)).map
      fun dims => [first.withDims dims]) := by
  obtain ⟨edge, others, typed, later, rfl⟩ := List.forall₂_cons_right_iff.mp yields
  have given : scope.operand label edge = .ok first := (operand_iff scope label edge first).mpr typed
  by_cases inside : axis.toNat < first.rank
  · have own : first.dims.AgreesOff axis.toNat first.dims :=
      (agrees_off_iff_set axis.toNat _ _ 0).mpr rfl
    have passes : first.dims.agreeExcept axis.toNat first.dims = true :=
      (agree_except_iff axis.toNat _ _).mpr own
    have start : Extent.add? 0 (first.dims.getD axis.toNat 0) = some (first.dims.getD axis.toNat 0) :=
      (extent_sum_iff _ _ _).mpr (Nat.zero_add _).symm
    have loops := loops_alike scope label axis first [first] rest others later kinds
      (first.dims.getD axis.toNat 0) (List.forall_mem_singleton.mpr own) (Nat.add_zero _).symm
    have within : ¬ first.dims.length ≤ axis.toNat := Nat.not_le_of_lt inside
    simp only [Scope.draft, given, require, if_pos inside, Dims.concat, List.map_cons, if_neg within,
      stacked_extent_step, Dims.stackedNext, if_pos passes, start, bind, Except.bind]
    generalize scope.stackAll label axis first (first.dims.getD axis.toNat 0) others = outcome at loops ⊢
    generalize shaped : Dims.stackedExtent first.dims axis 1 (first.dims.getD axis.toNat 0)
      (rest.map TensorType.dims) = other
    rw [List.length_singleton, shaped] at loops
    cases loops with
    | ok total => exact .ok _
    | error fault shapeFault belong => exact .error fault shapeFault belong
  · have outside : first.dims.length ≤ axis.toNat := Nat.le_of_not_lt inside
    simp only [Scope.draft, given, require, if_neg inside, Dims.concat, List.map_cons, if_pos outside,
      bind, Except.bind]
    exact .error _ _ (.axis outside)

end Loops

-- Tensors of any types can be the operands of a layer.
theorem any_types_are_read (settings : Settings) (types : List TensorType) : ∃ actions id function edges,
    (Network.run settings .empty actions).function? id = some function ∧
      List.Forall₂ ((Network.run settings .empty actions).scopeOf function).Yields edges types := by
  let home : Function := { id := ⟨0⟩, name := "f" }
  let wanted : List Parameter := types.map fun type => ⟨type, "x", .external, .none⟩
  let start := (Network.empty.createFunction "f").2
  have kept : start.Represented :=
    run_represented settings .empty [.createFunction "f"] empty_represented
  have made : Network.run settings .empty (.createFunction "f" :: wanted.map .createVariable) =
      start.createVariables wanted := by
    rw [Network.run, List.foldl_cons, List.foldl_map]
    rfl
  refine ⟨.createFunction "f" :: wanted.map .createVariable, ⟨0⟩, home,
    (List.range types.length).map fun i => .ofVariable ⟨i⟩, ?_⟩
  rw [made]
  refine ⟨?_, List.forall₂_map_left_iff.mpr ((listed_at_range types).imp fun i type listed => ?_)⟩
  · rw [Network.function?, create_variables_functions]
    rfl
  · have typed := created_parameter_yields start kept home wanted i type (by simp [wanted, listed])
    rwa [show start.nextVariable + i = i from Nat.zero_add i] at typed

-- A layer and the rule for shapes refuse the same stacks of tensors of one kind, for the same reason,
-- and agree on the shape of all others. So a stack that a layer has been drafted for passes the check of
-- its operator, and a refused one leaves nothing.
theorem stacks_are_checked_alike (settings : Settings) (label : String) (axis : Extent)
    (first : TensorType) (rest : List TensorType)
    (kinds : ∀ type ∈ rest, type.element = first.element) :
    (∃ actions id function edges, (Network.run settings .empty actions).function? id = some function ∧
      List.Forall₂ ((Network.run settings .empty actions).scopeOf function).Yields edges
        (first :: rest)) ∧
    ∀ actions id function edges, (Network.run settings .empty actions).function? id = some function →
      List.Forall₂ ((Network.run settings .empty actions).scopeOf function).Yields edges
        (first :: rest) →
    let network := Network.run settings .empty actions
    let drafted := (network.scopeOf function).draft label (.concat edges axis)
    let shaped := Dims.concat axis ((first :: rest).map TensorType.dims)
    let outcome := network.addLayer id label (.concat edges axis)
    ((∃ fault, drafted = .error fault) ↔ ∃ fault, shaped = .error fault) ∧
      (∀ fault other, drafted = .error fault → shaped = .error other →
        StackFaults label axis first (first :: rest) fault other ∧ outcome = (.error fault, network)) ∧
      ∀ draft dims, drafted = .ok draft → shaped = .ok dims → draft.results = [first.withDims dims] ∧
        draft.operator.check (first :: rest) draft.results = .ok () ∧ ∃ made, outcome.1 = .ok made := by
  refine ⟨any_types_are_read settings (first :: rest), fun actions id function edges found yields => ?_⟩
  intro network drafted shaped outcome
  have kept : network.Represented := run_represented settings .empty actions empty_represented
  have agree := concat_alike (network.scopeOf function) label axis first edges rest yields kinds
  refine ⟨?_, fun fault other refused otherRefused => ⟨?_, ?_⟩,
    fun draft dims accepted otherAccepted => ?_⟩
  · have faults := agreeing_faults_iff _ _ _ agree
    simpa only [map_fault_iff] using faults
  · rw [show (network.scopeOf function).draft label (.concat edges axis) = .error fault from refused,
      show Dims.concat axis ((first :: rest).map TensorType.dims) = .error other
        from otherRefused] at agree
    exact agreeing_faults _ fault other agree
  · simp only [outcome, Network.addLayer, show network.function? id = some function from found,
      show (network.scopeOf function).draft label (.concat edges axis) = .error fault from refused]
  · have results : draft.results = [first.withDims dims] := by
      rw [show (network.scopeOf function).draft label (.concat edges axis) = .ok draft from accepted,
        show Dims.concat axis ((first :: rest).map TensorType.dims) = .ok dims
          from otherAccepted] at agree
      exact agreeing_results _ draft.results _ agree
    have spared : ∀ scope result, ¬ (Layer.concat edges axis).Unscaled scope result :=
      fun _ _ unscaled => by cases unscaled
    refine ⟨results, ?_,
      (layer_added_iff network kept id label _ spared).mpr ⟨function, draft, found, accepted⟩⟩
    obtain ⟨_, result, _, _, rfl⟩ := (concat_drafted_iff _ label edges axis draft).mp accepted
    rw [results]
    simp only [Operator.check, Operator.derived,
      show Dims.concat axis ((first :: rest).map TensorType.dims) = .ok dims from
      otherAccepted, Except.mapError, bind, Except.bind, Operator.expectDims, require]
    exact if_pos rfl

-- The extents of the one stack come to the largest extent there is, those of the other to one more.
theorem widest_stack_is_made :
    let wide : TensorType := .quantized .int8Q [2, 9223372036854775808] ⟨0x3f000000⟩ 2
    let narrow : TensorType := .plain .int8Q [2, 9223372036854775807]
    let network :=
      Network.run {} .empty [.createFunction "f", .createVariable ⟨wide, "x", .external, .none⟩,
      .createVariable ⟨narrow, "y", .external, .none⟩]
    let x := Edge.ofVariable ⟨0⟩
    let y := Edge.ofVariable ⟨1⟩
    (∃ made, (network.addLayer ⟨0⟩ "c" (.concat [x, y] 1)).1 = .ok made) ∧
      network.addLayer ⟨0⟩ "c" (.concat [x, x] 1) =
        (.error (.invalidAttribute "c" (.shape (.concatOverflow 1))), network) := by
  intro wide narrow network x y
  let home : Function := { id := ⟨0⟩, name := "f" }
  have found : network.function? ⟨0⟩ = some home := by decide +kernel
  have ofX : (network.scopeOf home).Yields x wide := ⟨⟨0⟩, by decide +kernel, by decide +kernel⟩
  have ofY : (network.scopeOf home).Yields y narrow := ⟨⟨1⟩, by decide +kernel, by decide +kernel⟩
  obtain ⟨refusals, _, made⟩ :=
    (stacks_are_checked_alike {} "c" 1 wide [narrow] (List.forall_mem_singleton.mpr rfl)).2
    _ ⟨0⟩ home [x, y] found (.cons ofX (.cons ofY .nil))
  obtain ⟨_, traceless, _⟩ :=
    (stacks_are_checked_alike {} "c" 1 wide [wide] (List.forall_mem_singleton.mpr rfl)).2
    _ ⟨0⟩ home [x, x] found (.cons ofX (.cons ofX .nil))
  refine ⟨?_, (traceless _ (.concatOverflow 1) (by decide +kernel) (by decide +kernel)).2⟩
  have shaped : Dims.concat 1 [wide.dims, narrow.dims] = .ok [2, Extent.largest] := by
    decide +kernel
  cases drafted : (network.scopeOf home).draft "c" (.concat [x, y] 1) with
  | ok draft => exact (made draft _ drafted shaped).2.2
  | error fault =>
      obtain ⟨other, refused⟩ := refusals.mp ⟨fault, drafted⟩
      cases shaped.symm.trans refused

end TensorGraph
