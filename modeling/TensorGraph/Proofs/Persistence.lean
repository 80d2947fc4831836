import TensorGraph.Proofs.Construction

set_option autoImplicit false

namespace TensorGraph

-- What a node keeps through every action: an edit changes its name and its edges only.
structure Node.Remains (old node : Node) : Prop where
  id : old.id = node.id
  operator : old.operator = node.operator
  results : old.results = node.results

-- Numbers below the counters of the earlier network are not given again, so whatever stands under one
-- was there before.
structure Network.Persists (network next : Network) : Prop where
  types : network.types.Extends next.types
  variableCount : network.nextVariable ≤ next.nextVariable
  nodeCount : network.nextNode ≤ next.nextNode
  functionCount : network.functions.length ≤ next.functions.length
  storage : ∀ v ∈ next.storage, v.id.index < network.nextVariable →
    ∃ old ∈ network.storage, old.Becomes v
  nodes : ∀ id after, next.function? id = some after →
    ∀ node ∈ after.nodes, node.id.index < network.nextNode →
    ∃ before, network.function? id = some before ∧ ∃ old ∈ before.nodes, old.Remains node

-- The number was given and nothing stands under it.
def Network.Gone (network : Network) : Producer → Prop
  | .var id => id.index < network.nextVariable ∧ ∀ v ∈ network.storage, v.id ≠ id
  | .node id => id.index < network.nextNode ∧
      ∀ function ∈ network.functions, ∀ node ∈ function.nodes, node.id ≠ id

-- Handles that lead somewhere at both moments lead to the same.
structure Network.Honours (earlier later : Network) : Prop where
  types : earlier.types.Extends later.types
  storage : ∀ id v w, earlier.storage.get? id = some v → later.storage.get? id = some w → v.Becomes w
  nodes : ∀ f g F G id a b, earlier.function? f = some F → later.function? g = some G →
    F.node? id = some a → G.node? id = some b → f = g ∧ a.Remains b
  edges : ∀ f g F G edge type other, earlier.function? f = some F → later.function? g = some G →
    (earlier.scopeOf F).typeOf edge = .ok type → (later.scopeOf G).typeOf edge = .ok other → other = type

theorem variable_becomes_trans (a b c : Variable) (first : a.Becomes b) (second : b.Becomes c) :
    a.Becomes c :=
  ⟨first.id.trans second.id, first.name.trans second.name, first.type.trans second.type,
    first.visibility.trans second.visibility, first.initializer.trans second.initializer⟩

theorem node_remains_trans (a b c : Node) (first : a.Remains b) (second : b.Remains c) : a.Remains c :=
  ⟨first.id.trans second.id, first.operator.trans second.operator, first.results.trans second.results⟩

theorem persists_refl (network : Network) : network.Persists network where
  types := pool_extends_refl network.types
  variableCount := Nat.le_refl _
  nodeCount := Nat.le_refl _
  functionCount := Nat.le_refl _
  storage := fun v member _ => ⟨v, member, same_variable_becomes v⟩
  nodes := fun _ function found node inside _ => ⟨function, found, node, inside, rfl, rfl, rfl⟩

theorem persists_trans (a b c : Network) (first : a.Persists b) (second : b.Persists c) :
    a.Persists c where
  types := pool_extends_trans _ _ _ first.types second.types
  variableCount := Nat.le_trans first.variableCount second.variableCount
  nodeCount := Nat.le_trans first.nodeCount second.nodeCount
  functionCount := Nat.le_trans first.functionCount second.functionCount
  storage := by
    intro v member below
    obtain ⟨middle, between, later⟩ :=
      second.storage v member (Nat.lt_of_lt_of_le below first.variableCount)
    rw [← later.id] at below
    obtain ⟨old, older, earlier⟩ := first.storage middle between below
    exact ⟨old, older, variable_becomes_trans old middle v earlier later⟩
  nodes := by
    intro id after found node inside below
    obtain ⟨between, foundBetween, middle, there, later⟩ :=
      second.nodes id after found node inside (Nat.lt_of_lt_of_le below first.nodeCount)
    rw [← later.id] at below
    obtain ⟨before, foundBefore, old, older, earlier⟩ :=
      first.nodes id between foundBetween middle there below
    exact ⟨before, foundBefore, old, older, node_remains_trans old middle node earlier later⟩

theorem change_function_count (action : Action) (network next : Network)
    (change : Change action network next) :
    network.functions.length ≤ next.functions.length := by
  cases change with
  | createFunction => simp
  | cloneFunction => simp
  | addNode _ _ _ _ adds => simp [adds.result, Network.updateFunction]
  | eraseNode => simp [Network.updateFunction]
  | editNode => simp [Network.updateFunction]
  | _ => exact Nat.le_refl _

theorem change_persists (action : Action) (network next : Network) (change : Change action network next)
    (kept : network.Represented) : network.Persists next := by
  have continues := change_continues action network next change kept
  have nextKept := change_represented action network next change kept
  refine ⟨continues.types, continues.storage.count, continues.nodeCount,
    change_function_count action network next change,
    continues.storage.kept, ?_⟩
  intro id after found node inside below
  rcases continues.functions after (List.mem_of_getElem? found) with ⟨before, member, became⟩ | fresh
  · obtain ⟨old, older, same⟩ := became.nodes node inside below
    -- Each function is stored under its own number, so the earlier one stood at the same place.
    obtain ⟨i, access⟩ := List.mem_iff_getElem?.mp member
    have number := kept.functions.placed i before access
    rw [became.id, nextKept.functions.placed id.index after found] at number
    have place : id.index = i := FunctionId.mk.inj number
    rw [← place] at access
    exact ⟨before, access, old, older, same.id, same.operator, same.results⟩
  · exact absurd below (Nat.not_lt_of_le (fresh node inside))

theorem changes_persist (action : Action) (network next : Network)
    (changes : Changes action network next) (kept : network.Represented) : network.Persists next := by
  induction changes with
  | refl => exact persists_refl network
  | tail before change ih =>
      apply persists_trans _ _ _ ih
      exact change_persists action _ _ change (changes_represented action _ _ before kept)

theorem run_persists (settings : Settings) (network : Network) (actions : List Action)
    (kept : network.Represented) :
    network.Persists (network.run settings actions) := by
  induction actions generalizing network with
  | nil => exact persists_refl network
  | cons action rest ih =>
      have changes := perform_changes settings network action
      apply persists_trans _ _ _ (changes_persist action _ _ changes kept)
      exact ih _ (changes_represented action _ _ changes kept)

theorem gone_remains (earlier later : Network) (persists : earlier.Persists later) (target : Producer)
    (gone : earlier.Gone target) : later.Gone target := by
  cases target with
  | var id =>
      obtain ⟨given, absent⟩ := gone
      refine ⟨Nat.lt_of_lt_of_le given persists.variableCount, ?_⟩
      rintro v member rfl
      obtain ⟨old, older, became⟩ := persists.storage v member given
      exact absent old older became.id
  | node id =>
      obtain ⟨given, absent⟩ := gone
      refine ⟨Nat.lt_of_lt_of_le given persists.nodeCount, ?_⟩
      rintro function member node inside rfl
      obtain ⟨i, access⟩ := List.mem_iff_getElem?.mp member
      obtain ⟨before, found, old, older, remains⟩ := persists.nodes ⟨i⟩ function access node inside given
      exact absent before (List.mem_of_getElem? found) old older remains.id

theorem gone_untyped (network : Network) (kept : network.Represented) (target : Producer)
    (gone : network.Gone target) (function : Function) (member : function ∈ network.functions)
    (slot : Nat) :
    (network.scopeOf function).typeOf ⟨target, slot⟩ = .error (.nodeNotFound target) := by
  have unresolved : (network.scopeOf function).handle? ⟨target, slot⟩ = none := by
    rw [Option.eq_none_iff_forall_ne_some]
    intro handle resolved
    cases target with
    | var id =>
        obtain ⟨_, v, found, _⟩ := (variable_handle_iff _ id slot handle).mp resolved
        obtain ⟨stored, same⟩ := (variable_iff _ _ _ kept.storage id v).mp found
        exact gone.2 v stored same
    | node id =>
        obtain ⟨node, found, _⟩ := (node_handle_iff _ id slot handle).mp resolved
        obtain ⟨inside, same⟩ :=
          (node_iff function (kept.functions.indexed function member) id node).mp found
        exact gone.2 function member node inside same
  unfold Scope.typeOf
  rw [unresolved]

theorem erased_variable_gone (network : Network) (kept : network.Represented) (id : VariableId)
    (erased : Variable) (done : (network.eraseVariable id).1 = .ok erased) :
    (network.eraseVariable id).2.Gone (.var id) := by
  unfold Network.eraseVariable at done ⊢
  cases found : network.storage.get? id with
  | none => simp [found] at done
  | some v =>
      obtain ⟨stored, same⟩ := (variable_iff _ _ _ kept.storage id v).mp found
      refine ⟨?_, ?_⟩
      · exact same ▸ kept.storage.below v stored
      · intro other member
        exact ((network.storage.erased_iff kept.storage.keyed id other).mp member).2

theorem erased_gone (network : Network) (kept : network.Represented) (id : FunctionId)
    (target : Producer)
    (done : (network.erase id target).1 = .ok ()) : (network.erase id target).2.Gone target := by
  unfold Network.erase at done ⊢
  cases found : network.function? id with
  | none => simp [found] at done
  | some function =>
      simp only [found] at done ⊢
      cases target with
      | var v =>
          obtain ⟨erased, removed, _⟩ := (map_ok_iff _ _ _).mp done
          exact erased_variable_gone network kept v erased removed
      | node node =>
          dsimp only at done ⊢
          have indexed := kept.functions.indexed function (List.mem_of_getElem? found)
          cases present : function.node? node with
          | none => simp [present] at done
          | some erased =>
              obtain ⟨inside, same⟩ := (node_iff function indexed node erased).mp present
              refine ⟨?_, ?_⟩
              · exact same ▸ kept.functions.below function (List.mem_of_getElem? found) erased inside
              · intro other member left stays again
                obtain ⟨i, access⟩ := List.mem_iff_getElem?.mp member
                obtain ⟨old, before, rfl⟩ :=
                  (updated_entry_iff network.functions id.index i _ other).mp access
                by_cases here : id.index = i
                · subst i
                  cases found.symm.trans before
                  rw [if_pos rfl] at stays
                  exact ((erase_nodes function indexed node left).mp stays).2 again
                · rw [if_neg here] at stays
                  exact here (kept.functions.apart _ _ _ _ found before erased inside left stays
                    (same.trans again.symm))

theorem erasing_action_gone (settings : Settings) (network : Network) (kept : network.Represented)
    (action : Action) (reply : Reply) (target : Producer) (erases : action.erased? = some target)
    (done : (network.perform settings action).1 = .ok reply) :
      (network.perform settings action).2.Gone target := by
  cases action with
  | eraseVariable id =>
      cases erases
      obtain ⟨erased, removed, _⟩ := (map_ok_iff _ _ _).mp done
      exact erased_variable_gone network kept id erased removed
  | edit id change =>
      cases change with
      | erase producer =>
          cases erases
          obtain ⟨⟨⟩, removed, _⟩ := (map_ok_iff _ _ _).mp done
          exact erased_gone network kept id target removed
      | _ => cases erases
  | _ => cases erases

section Moments

variable (earlier later : Network) (persists : earlier.Persists later) (kept : earlier.Represented)
  (laterKept : later.Represented)

include persists kept laterKept

theorem variable_remains (id : VariableId) (v w : Variable) (found : earlier.storage.get? id = some v)
    (again : later.storage.get? id = some w) : v.Becomes w := by
  obtain ⟨stored, same⟩ := (variable_iff _ _ _ kept.storage id v).mp found
  obtain ⟨storedAgain, sameAgain⟩ := (variable_iff _ _ _ laterKept.storage id w).mp again
  have below := kept.storage.below v stored
  rw [same, ← sameAgain] at below
  obtain ⟨old, older, became⟩ := persists.storage w storedAgain below
  have foundOld := (variable_iff _ _ _ kept.storage id old).mpr ⟨older, became.id.trans sameAgain⟩
  cases found.symm.trans foundOld
  exact became

theorem node_remains (f g : FunctionId) (F G : Function) (id : NodeId) (a b : Node)
    (home : earlier.function? f = some F) (homeAgain : later.function? g = some G)
    (found : F.node? id = some a) (again : G.node? id = some b) :
    f = g ∧ a.Remains b := by
  have indexed := kept.functions.indexed F (List.mem_of_getElem? home)
  obtain ⟨inside, same⟩ := (node_iff F indexed id a).mp found
  obtain ⟨insideAgain, sameAgain⟩ :=
    (node_iff G (laterKept.functions.indexed G (List.mem_of_getElem? homeAgain)) id b).mp again
  have below := kept.functions.below F (List.mem_of_getElem? home) a inside
  rw [same, ← sameAgain] at below
  obtain ⟨before, homeBefore, old, older, remains⟩ := persists.nodes g G homeAgain b insideAgain below
  have oldId : old.id = id := remains.id.trans sameAgain
  -- Only one function has the number, so the node did not move.
  have place : f = g := congrArg FunctionId.mk
    (kept.functions.apart f.index g.index F before home homeBefore a inside old older
      (same.trans oldId.symm))
  subst g
  cases home.symm.trans homeBefore
  have foundOld := (node_iff F indexed id old).mpr ⟨older, oldId⟩
  cases found.symm.trans foundOld
  exact ⟨rfl, remains⟩

end Moments

-- What leads somewhere at two moments led to the same at every moment between them.
theorem edge_stands (earlier middle later : Network) (first : earlier.Persists middle)
    (second : middle.Persists later) (kept : earlier.Represented) (middleKept : middle.Represented)
    (laterKept : later.Represented) (f g : FunctionId) (F G : Function)
    (home : earlier.function? f = some F) (homeAgain : later.function? g = some G) (edge : Edge)
    (handle last : TypeHandle) (resolved : (earlier.scopeOf F).handle? edge = some handle)
    (again : (later.scopeOf G).handle? edge = some last) :
    last = handle ∧ ∃ M, middle.function? f = some M ∧
      (middle.scopeOf M).handle? edge = some handle := by
  obtain ⟨producer, slot⟩ := edge
  cases producer with
  | var id =>
      obtain ⟨zero, v, found, rfl⟩ := (variable_handle_iff _ id slot handle).mp resolved
      obtain ⟨_, w, foundAgain, rfl⟩ := (variable_handle_iff _ id slot last).mp again
      obtain ⟨stored, same⟩ := (variable_iff _ _ _ kept.storage id v).mp found
      obtain ⟨storedAgain, sameAgain⟩ := (variable_iff _ _ _ laterKept.storage id w).mp foundAgain
      have below := Nat.lt_of_lt_of_le (kept.storage.below v stored) first.variableCount
      rw [same, ← sameAgain] at below
      obtain ⟨m, between, became⟩ := second.storage w storedAgain below
      have foundBetween :=
        (variable_iff _ _ _ middleKept.storage id m).mpr ⟨between, became.id.trans sameAgain⟩
      have sameType :=
        (variable_remains earlier middle first kept middleKept id v m found foundBetween).type
      have place : f.index < middle.functions.length :=
        Nat.lt_of_lt_of_le (List.getElem?_eq_some_iff.mp home).1 first.functionCount
      refine ⟨became.type.symm.trans sameType.symm, _, List.getElem?_eq_getElem place, ?_⟩
      exact (variable_handle_iff _ id slot v.type).mpr ⟨zero, m, foundBetween, sameType.symm⟩
  | node id =>
      obtain ⟨a, found, held⟩ := (node_handle_iff _ id slot handle).mp resolved
      obtain ⟨b, foundAgain, heldAgain⟩ := (node_handle_iff _ id slot last).mp again
      obtain ⟨inside, same⟩ :=
        (node_iff F (kept.functions.indexed F (List.mem_of_getElem? home)) id a).mp found
      obtain ⟨insideAgain, sameAgain⟩ :=
        (node_iff G (laterKept.functions.indexed G (List.mem_of_getElem? homeAgain)) id b).mp foundAgain
      have below :=
        Nat.lt_of_lt_of_le (kept.functions.below F (List.mem_of_getElem? home) a inside) first.nodeCount
      rw [same, ← sameAgain] at below
      obtain ⟨M, homeBetween, m, between, remains⟩ := second.nodes g G homeAgain b insideAgain below
      have foundBetween :=
        (node_iff M (middleKept.functions.indexed M (List.mem_of_getElem? homeBetween)) id m).mpr
        ⟨between, remains.id.trans sameAgain⟩
      obtain ⟨rfl, remained⟩ := node_remains earlier middle first kept middleKept f g F M id a m home
        homeBetween found foundBetween
      rw [← remains.results, ← remained.results, held] at heldAgain
      refine ⟨(Option.some.inj heldAgain).symm, M, homeBetween, ?_⟩
      exact (node_handle_iff _ id slot handle).mpr ⟨m, foundBetween, remained.results ▸ held⟩

theorem type_stands (earlier middle later : Network) (first : earlier.Persists middle)
    (second : middle.Persists later) (kept : earlier.Represented) (middleKept : middle.Represented)
    (laterKept : later.Represented) (f g : FunctionId) (F G : Function)
    (home : earlier.function? f = some F) (homeAgain : later.function? g = some G) (edge : Edge)
    (type other : TensorType) (typed : (earlier.scopeOf F).typeOf edge = .ok type)
    (again : (later.scopeOf G).typeOf edge = .ok other) :
    other = type ∧ ∃ M, middle.function? f = some M ∧ (middle.scopeOf M).typeOf edge = .ok type := by
  obtain ⟨handle, resolved, known⟩ := (type_of_iff _ _ _).mp typed
  obtain ⟨last, resolvedAgain, knownAgain⟩ := (type_of_iff _ _ _).mp again
  obtain ⟨rfl, M, homeBetween, between⟩ :=
    edge_stands earlier middle later first second kept middleKept laterKept f g F G
    home homeAgain edge handle last resolved resolvedAgain
  have knownBetween := first.types last type known
  have stillKnown := second.types last type knownBetween
  refine ⟨Option.some.inj (knownAgain.symm.trans stillKnown), M, homeBetween, ?_⟩
  exact (type_of_iff _ _ _).mpr ⟨last, between, knownBetween⟩

theorem persists_honours (earlier later : Network) (persists : earlier.Persists later)
    (kept : earlier.Represented) (laterKept : later.Represented) : earlier.Honours later where
  types := persists.types
  storage := variable_remains earlier later persists kept laterKept
  nodes := node_remains earlier later persists kept laterKept
  edges := fun f g F G edge type other home homeAgain typed again =>
    (type_stands earlier later later persists (persists_refl later) kept laterKept laterKept f g F G home
      homeAgain edge type other typed again).1

theorem run_append (settings : Settings) (network : Network) (first second : List Action) :
    network.run settings (first ++ second) = (network.run settings first).run settings second :=
  List.foldl_append ..

theorem handles_keep_their_meaning (settings : Settings) (actions between : List Action) :
    let earlier := Network.run settings .empty actions
    let later := earlier.run settings between
    earlier.Honours later ∧
      (∀ f g F G edge type other, earlier.function? f = some F → later.function? g = some G →
        (earlier.scopeOf F).typeOf edge = .ok type → (later.scopeOf G).typeOf edge = .ok other →
        ∀ first second, between = first ++ second →
          ∃ M, (earlier.run settings first).function? f = some M ∧
          ((earlier.run settings first).scopeOf M).typeOf edge = .ok type) ∧
      ∀ first action second reply target, between = first ++ action :: second →
        action.erased? = some target →
        ((earlier.run settings first).perform settings action).1 = .ok reply →
        ∀ function ∈ later.functions, ∀ slot,
          (later.scopeOf function).typeOf ⟨target, slot⟩ = .error (.nodeNotFound target) := by
  intro earlier later
  have kept : earlier.Represented := run_represented settings .empty actions empty_represented
  have laterKept : later.Represented := run_represented settings earlier between kept
  refine ⟨persists_honours earlier later (run_persists settings earlier between kept) kept laterKept, ?_,
    ?_⟩
  · intro f g F G edge type other home homeAgain typed again first second split
    have middleKept := run_represented settings earlier first kept
    have rest : (earlier.run settings first).Persists later := by
      change Network.Persists _ (earlier.run settings between)
      rw [split, run_append settings earlier]
      exact run_persists settings _ second middleKept
    exact (type_stands earlier _ later (run_persists settings earlier first kept) rest kept middleKept
      laterKept f g F G home homeAgain edge type other typed again).2
  · intro first action second reply target split erases done function member slot
    have middleKept := run_represented settings earlier first kept
    have gone := erasing_action_gone settings _ middleKept action reply target erases done
    have nextKept := changes_represented action _ _ (perform_changes settings _ action) middleKept
    have rest : ((earlier.run settings first).perform settings action).2.Persists later := by
      change Network.Persists _ (earlier.run settings between)
      rw [split, run_append settings earlier]
      exact run_persists settings _ second nextKept
    exact gone_untyped later laterKept target (gone_remains _ later rest target gone)
      function member slot

-- The sum still reads the number of the erased node, so the clone fails; new nodes come under new
-- numbers.
theorem erased_number_leads_nowhere :
    let earlier := Network.run {} .empty [.createFunction "main",
      .createVariable ⟨.plain .float [2], "x", .external, .none⟩,
      .edit ⟨0⟩ (.addLayer "act" (.activation .relu (.ofVariable ⟨0⟩))),
      .edit ⟨0⟩ (.addLayer "sum" (.arithmetic .add (.ofNode ⟨0⟩) (.ofVariable ⟨0⟩)))]
    let erasure : Action := .edit ⟨0⟩ (.erase (.node ⟨0⟩))
    let rest : List Action := [.cloneFunction ⟨0⟩ "copy", .createFunction "other",
      .edit ⟨1⟩ (.addLayer "act" (.activation .tanh (.ofVariable ⟨0⟩))),
      .edit ⟨0⟩ (.rename ⟨1⟩ "act__1")]
    let later := earlier.run {} (erasure :: rest)
    earlier.Honours later ∧
      (∃ F G, earlier.function? ⟨0⟩ = some F ∧ later.function? ⟨0⟩ = some G ∧
        (earlier.scopeOf F).typeOf (.ofNode ⟨1⟩) = .ok (.plain .float [2]) ∧
        (later.scopeOf G).typeOf (.ofNode ⟨1⟩) = .ok (.plain .float [2])) ∧
      (∀ first second, erasure :: rest = first ++ second →
        ∃ M, (earlier.run {} first).function? ⟨0⟩ = some M ∧
        ((earlier.run {} first).scopeOf M).typeOf (.ofNode ⟨1⟩) = .ok (.plain .float [2])) ∧
      (earlier.perform {} erasure).1 = .ok .done ∧
      ∀ function ∈ later.functions, ∀ slot,
        (later.scopeOf function).typeOf ⟨.node ⟨0⟩, slot⟩ = .error (.nodeNotFound (.node ⟨0⟩)) := by
  intro earlier erasure rest later
  obtain ⟨honours, stands, gone⟩ := handles_keep_their_meaning {} _ (erasure :: rest)
  obtain ⟨F, home⟩ : ∃ F, earlier.function? ⟨0⟩ = some F := Option.isSome_iff_exists.mp (by decide)
  obtain ⟨G, homeAgain⟩ : ∃ G, later.function? ⟨0⟩ = some G := Option.isSome_iff_exists.mp (by decide)
  have before : ∀ F ∈ earlier.function? ⟨0⟩, (earlier.scopeOf F).typeOf (.ofNode ⟨1⟩) =
      .ok (.plain .float [2]) := by decide
  have after : ∀ G ∈ later.function? ⟨0⟩, (later.scopeOf G).typeOf (.ofNode ⟨1⟩) =
      .ok (.plain .float [2]) := by decide
  have typed := before F home
  have typedAgain := after G homeAgain
  have done : (earlier.perform {} erasure).1 = .ok .done := by decide
  refine ⟨honours, ⟨F, G, home, homeAgain, typed, typedAgain⟩, ?_, done, ?_⟩
  · exact stands ⟨0⟩ ⟨0⟩ F G (.ofNode ⟨1⟩) _ _ home homeAgain typed typedAgain
  · exact gone [] erasure rest .done (.node ⟨0⟩) rfl rfl done

end TensorGraph
