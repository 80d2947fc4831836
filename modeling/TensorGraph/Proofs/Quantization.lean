import Mathlib.Data.List.Induction
import TensorGraph.Proofs.PoolContents

set_option autoImplicit false

namespace TensorGraph

-- A type has parameters exactly when its element kind is a quantized one.
def TensorType.Paired (type : TensorType) : Prop := type.isQuantized = type.element.isQuantized

instance (type : TensorType) : Decidable type.Paired := inferInstanceAs (Decidable (_ = _))

def TypePool.Paired (pool : TypePool) : Prop := ∀ type ∈ pool.types, type.Paired

instance (pool : TypePool) : Decidable pool.Paired :=
  inferInstanceAs (Decidable (∀ type ∈ pool.types, type.Paired))

-- The types that a request names itself.
def Action.supplied : Action → List TensorType
  | .intern type => [type]
  | .createVariable wanted => [wanted.type]
  | .edit _ (.addLayer _ layer) => layer.supplied
  | _ => []

-- The request is for a layer that takes over a quantized element kind without its parameters.
def Network.Sheds (network : Network) : Action → Prop
  | .edit id (.addLayer label layer) =>
      ∃ function draft edge type, network.function? id = some function ∧
      (network.scopeOf function).draft label layer = .ok draft ∧ layer.shed? = some edge ∧
      (network.scopeOf function).Yields edge type ∧ type.element.isQuantized = true
  | _ => False

theorem yielded_type_listed (scope : Scope) (edge : Edge) (type : TensorType)
    (typed : scope.Yields edge type) :
    type ∈ scope.types.types := by
  obtain ⟨handle, _, known⟩ := typed
  exact List.mem_of_getElem? known

-- The types that an action brings to the pool are named by it, or have other shapes than types of the
-- pool, or are of a kind without parameters, or are of the kind of an operand and have lost its
-- parameters.
theorem interned_origin (network : Network) (action : Action) (type : TensorType)
    (brought : type ∈ network.interned action) :
    type ∈ action.supplied ∨ (∃ base ∈ network.types.types, ∃ dims, type = base.withDims dims) ∨
      ∃ element dims, type = .plain element dims ∧
        (element.isQuantized = false ∨ network.Sheds action) := by
  cases action with
  | intern wanted => exact .inl brought
  | createVariable wanted => exact .inl brought
  | reshape base dims =>
      obtain ⟨known, found, rfl⟩ := List.mem_map.mp brought
      have listed := List.mem_of_getElem? (Option.mem_toList.mp found)
      exact .inr (.inl ⟨known, listed, dims, rfl⟩)
  | edit id change =>
      cases change with
      | addLayer label layer =>
          simp only [Network.interned] at brought
          split at brought
          · cases brought
          · rename_i function found
            split at brought
            · cases brought
            · rename_i draft drafted
              cases (draft_sound _ label draft layer drafted).derived type brought with
              | supplied _ listed => exact .inl listed
              | reshaped edge base dims typed =>
                  exact .inr (.inl ⟨base, yielded_type_listed _ edge base typed, dims, rfl⟩)
              | plain element dims unquantized =>
                  exact .inr (.inr ⟨element, dims, rfl, .inl unquantized⟩)
              | shed edge base dims sheds typed =>
                  refine .inr (.inr ⟨base.element, dims, rfl, ?_⟩)
                  cases quantized : base.element.isQuantized with
                  | false => exact .inl rfl
                  | true => exact .inr ⟨function, draft, edge, base, found, drafted, sheds,
                      typed, quantized⟩
      | _ => cases brought
  | _ => cases brought

theorem plain_unpaired (element : Element) (dims : Dims) (quantized : element.isQuantized = true) :
    ¬ (TensorType.plain element dims).Paired := by
  intro paired
  rw [TensorType.Paired, show (TensorType.plain element dims).element = element from rfl,
    quantized] at paired
  cases paired

theorem shed_kind_drafted (scope : Scope) (label : String) (layer : Layer) (draft : Draft)
    (edge : Edge) (base : TensorType) (drafted : scope.draft label layer = .ok draft)
    (sheds : layer.shed? = some edge) (typed : scope.Yields edge base) :
    ∃ dims, .plain base.element dims ∈ draft.types := by
  cases layer <;> cases sheds
  all_goals
    simp only [Scope.draft, bind_ok_iff, operand_iff, Except.ok.injEq] at drafted
    obtain ⟨type, again, drafted⟩ := drafted
    obtain rfl := yields_unique scope typed again
  case fullyConnected depth =>
    obtain ⟨flat, _, _, _, rfl⟩ := drafted
    exact ⟨[depth], List.mem_cons_of_mem _ List.mem_cons_self⟩
  case broadcast shape axis =>
    obtain ⟨_, _, _, _, rfl⟩ := drafted
    exact ⟨shape, List.mem_singleton_self _⟩
  case batchedReduceAdd =>
    obtain ⟨entry, _, rfl⟩ := drafted
    exact ⟨entry, List.mem_singleton_self _⟩
  case topK k =>
    obtain ⟨dims, _, rfl⟩ := drafted
    exact ⟨dims, List.mem_cons_self⟩

theorem shed_kind_interned (network : Network) (action : Action) (sheds : network.Sheds action) :
    ∃ element dims, element.isQuantized = true ∧ .plain element dims ∈ network.interned action := by
  cases action with
  | edit id change =>
      cases change with
      | addLayer label layer =>
          obtain ⟨function, draft, edge, base, found, drafted, sheds, typed, quantized⟩ := sheds
          obtain ⟨dims, brought⟩ := shed_kind_drafted _ label layer draft edge base drafted sheds typed
          refine ⟨base.element, dims, quantized, ?_⟩
          simp only [Network.interned, found, drafted]
          exact brought
      | _ => exact sheds.elim
  | _ => exact sheds.elim

section Step

variable (settings : Settings) (network : Network) (kept : network.Represented) (action : Action)

include kept

theorem performed_member_iff (type : TensorType) :
    type ∈ (network.perform settings action).2.types.types ↔
    type ∈ network.types.types ∨ type ∈ network.interned action := by
  rw [perform_types]
  exact intern_all_member_iff network.types kept.types _ type

theorem performed_paired (paired : network.types.Paired)
    (supplied : ∀ type ∈ action.supplied, type.Paired)
    (spared : ¬ network.Sheds action) : (network.perform settings action).2.types.Paired := by
  intro type listed
  rcases (performed_member_iff settings network kept action type).mp listed with older | brought
  · exact paired type older
  · rcases interned_origin network action type brought
      with named | ⟨base, known, dims, rfl⟩ | ⟨element, dims, rfl, bare⟩
    · exact supplied type named
    · exact paired base known
    · exact (bare.resolve_right spared).symm

theorem paired_before (paired : (network.perform settings action).2.types.Paired) :
    network.types.Paired :=
  fun type listed =>
    paired type ((performed_member_iff settings network kept action type).mpr (.inl listed))

theorem paired_spared (paired : (network.perform settings action).2.types.Paired) :
    ¬ network.Sheds action := by
  intro sheds
  obtain ⟨element, dims, quantized, brought⟩ := shed_kind_interned network action sheds
  exact plain_unpaired element dims quantized
    (paired _ ((performed_member_iff settings network kept action _).mpr (.inr brought)))

theorem performed_parameters
    (quantized : ∀ type ∈ network.types.types, type.isQuantized = true → type.element.isQuantized = true)
    (supplied : ∀ type ∈ action.supplied, type.Paired) :
      ∀ type ∈ (network.perform settings action).2.types.types,
      type.isQuantized = true → type.element.isQuantized = true := by
  intro type listed
  rcases (performed_member_iff settings network kept action type).mp listed with older | brought
  · exact quantized type older
  · rcases interned_origin network action type brought
      with named | ⟨base, known, dims, rfl⟩ | ⟨element, dims, rfl, _⟩
    · exact fun scaled => (supplied type named).symm.trans scaled
    · exact quantized base known
    · nofun

end Step

-- Types with parameters are of quantized kinds in every run. The converse holds exactly in the runs that
-- never take over the kind of a quantized operand without its parameters.
theorem runs_keep_types_paired_unless_shed (settings : Settings) (actions : List Action)
    (supplied : ∀ action ∈ actions, ∀ type ∈ action.supplied, type.Paired) :
    let pool := (Network.run settings .empty actions).types
    (∀ type ∈ pool.types, type.isQuantized = true → type.element.isQuantized = true) ∧
    (pool.Paired ↔ ∀ earlier action later, actions = earlier ++ action :: later →
      ¬ (Network.run settings .empty earlier).Sheds action) := by
  induction actions using List.reverseRecOn with
  | nil =>
      refine ⟨nofun, iff_of_true nofun ?_⟩
      intro earlier action later same
      simp at same
  | append_singleton actions action ih =>
      have kept := run_represented settings .empty actions empty_represented
      obtain ⟨quantized, decides⟩ :=
        ih fun other member => supplied other (List.mem_append_left _ member)
      have last : ∀ type ∈ action.supplied, type.Paired :=
        supplied action (List.mem_append_right _ (List.mem_singleton_self _))
      rw [run_snoc]
      refine ⟨performed_parameters settings _ kept action quantized last, ?_, ?_⟩
      · intro paired earlier other later same
        rcases List.eq_nil_or_concat later with rfl | ⟨before, final, rfl⟩
        · obtain ⟨rfl, rfl⟩ := List.append_singleton_inj.mp same
          exact paired_spared settings _ kept action paired
        · rw [List.concat_eq_append, ← List.cons_append, ← List.append_assoc] at same
          have part := (List.append_singleton_inj.mp same).1
          exact decides.mp (paired_before settings _ kept action paired) earlier other before part
      · intro spared
        have before := decides.mpr fun earlier other later same =>
          spared earlier other (later ++ [action]) (by simp [same])
        exact performed_paired settings _ kept action before last (spared actions action [] rfl)

theorem quantized_run_is_paired :
    let actions : List Action := [.createFunction "f",
      .createVariable ⟨.quantized .int8Q [1, 3] ⟨0x3f000000⟩ 2, "x", .external, .none⟩,
      .edit ⟨0⟩ (.addLayer "t" (.transpose (.ofVariable ⟨0⟩) [1, 0])),
      .edit ⟨0⟩ (.addLayer "d" (.dequantize (.ofNode ⟨0⟩)))]
    (Network.run {} .empty actions).types.Paired ∧
      ∀ earlier action later, actions = earlier ++ action :: later →
      ¬ (Network.run {} .empty earlier).Sheds action := by
  intro actions
  have paired : (Network.run {} .empty actions).types.Paired := by decide
  exact ⟨paired, (runs_keep_types_paired_unless_shed {} actions (by decide)).2.mp paired⟩

-- A broadcast of a quantized variable: the result is of the same kind and has no parameters.
theorem broadcast_sheds_parameters :
    let actions : List Action := [.createFunction "f",
      .createVariable ⟨.quantized .int8Q [1] ⟨0x3f000000⟩ 2, "x", .external, .none⟩,
      .edit ⟨0⟩ (.addLayer "b" (.broadcast (.ofVariable ⟨0⟩) [2] 0))]
    (∀ action ∈ actions, ∀ type ∈ action.supplied, type.Paired) ∧
      .plain .int8Q [2] ∈ (Network.run {} .empty actions).types.types ∧
      ¬ (TensorType.plain .int8Q [2]).Paired := by
  decide

end TensorGraph
