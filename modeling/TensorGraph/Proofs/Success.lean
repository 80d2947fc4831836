import TensorGraph.Graph.Verify

set_option autoImplicit false

namespace TensorGraph

variable {α β ε δ : Type}

theorem bind_ok_iff (first : Except ε α) (next : α → Except ε β) (result : β) :
    (first >>= next) = .ok result ↔ ∃ value, first = .ok value ∧ next value = .ok result := by
  cases first with
  | error fault => simp [bind, Except.bind]
  | ok value => simp [bind, Except.bind]

theorem bind_error_iff (first : Except ε α) (next : α → Except ε β) (fault : ε) :
    (first >>= next) = .error fault ↔ first = .error fault ∨ ∃ value, first = .ok value ∧
      next value = .error fault := by
  cases first with
  | error found => simp [bind, Except.bind]
  | ok value => simp [bind, Except.bind]

theorem some_unit_iff (holds : Unit → Prop) : (∃ value, holds value) ↔ holds () :=
  ⟨fun ⟨_, holding⟩ => holding, fun holding => ⟨(), holding⟩⟩

theorem then_ok_iff (first : Except ε Unit) (next : Except ε α) (result : α) :
    (first >>= fun _ => next) = .ok result ↔ first = .ok () ∧ next = .ok result := by
  rw [bind_ok_iff, some_unit_iff]

theorem then_error_iff (first : Except ε Unit) (next : Except ε α) (fault : ε) :
    (first >>= fun _ => next) = .error fault ↔ first = .error fault ∨ first = .ok () ∧
      next = .error fault := by
  rw [bind_error_iff, some_unit_iff]

theorem then_error (first : Except ε Unit) (next : Except ε α) (fault : ε)
    (failed : (first >>= fun _ => next) = .error fault) : first = .error fault ∨ next = .error fault :=
  ((then_error_iff first next fault).mp failed).imp_right And.right

theorem map_ok_iff (change : α → β) (outcome : Except ε α) (result : β) :
    outcome.map change = .ok result ↔ ∃ value, outcome = .ok value ∧ change value = result := by
  cases outcome with
  | error fault => simp [Except.map]
  | ok value => simp [Except.map]

theorem map_fault_iff (change : α → β) (outcome : Except ε α) (fault : ε) :
    outcome.map change = .error fault ↔ outcome = .error fault := by
  cases outcome with
  | error found => simp [Except.map]
  | ok value => simp [Except.map]

theorem map_error_error_iff (change : ε → δ) (outcome : Except ε α) (fault : δ) :
    outcome.mapError change = .error fault ↔ ∃ cause, outcome = .error cause ∧ change cause = fault := by
  cases outcome with
  | error cause =>
      constructor
      · intro same
        exact ⟨cause, rfl, Except.error.inj same⟩
      · rintro ⟨_, ⟨⟩, rfl⟩
        rfl
  | ok value => exact iff_of_false nofun nofun

theorem map_error_ok_iff (change : ε → δ) (outcome : Except ε α) (result : α) :
    outcome.mapError change = .ok result ↔ outcome = .ok result := by
  cases outcome with
  | error fault => exact iff_of_false nofun nofun
  | ok value =>
      constructor
      · intro same
        rw [Except.ok.inj same]
      · intro same
        rw [Except.ok.inj same]
        rfl

theorem check_all_step (check : α → Except ε Unit) (item : α) (rest : List α) :
    checkAll check (item :: rest) = (check item >>= fun _ => checkAll check rest) := by
  rw [checkAll]
  cases check item with
  | error fault => rfl
  | ok value => rfl

theorem check_all_ok_iff (check : α → Except ε Unit) (items : List α) :
    checkAll check items = .ok () ↔ ∀ item ∈ items, check item = .ok () := by
  induction items with
  | nil => simp [checkAll]
  | cons item rest ih =>
      rw [check_all_step, then_ok_iff, List.forall_mem_cons, ih]

-- The first item that fails, with all that passed before it.
theorem check_all_first_error (check : α → Except ε Unit) (items : List α) (fault : ε)
    (failed : checkAll check items = .error fault) :
      ∃ before item after, items = before ++ item :: after ∧
      (∀ earlier ∈ before, check earlier = .ok ()) ∧ check item = .error fault := by
  induction items with
  | nil => cases failed
  | cons item rest ih =>
      rw [checkAll] at failed
      cases first : check item with
      | error found =>
          rw [first] at failed
          exact ⟨[], item, rest,
            rfl, by simp, first.trans (congrArg Except.error (Except.error.inj failed))⟩
      | ok value =>
          rw [first] at failed
          obtain ⟨before, other, after, rfl, passed, found⟩ := ih failed
          exact ⟨item :: before, other, after, rfl, List.forall_mem_cons.mpr ⟨first, passed⟩, found⟩

theorem check_all_error (check : α → Except ε Unit) (items : List α) (fault : ε)
    (failed : checkAll check items = .error fault) : ∃ item ∈ items, check item = .error fault := by
  obtain ⟨before, item, after, rfl, _, found⟩ := check_all_first_error check items fault failed
  exact ⟨item, by simp, found⟩

theorem then_map_error (convert : ε → δ) (first : Except ε Unit) (next : Except ε α) :
    (first >>= fun _ => next).mapError convert =
      (first.mapError convert >>= fun _ => next.mapError convert) := by
  cases first with
  | error fault => rfl
  | ok value => rfl

theorem check_all_map_error (check : α → Except ε Unit) (other : β → Except δ Unit) (change : α → β)
    (convert : ε → δ) (items : List α)
    (same : ∀ item ∈ items, other (change item) = (check item).mapError convert) :
    checkAll other (items.map change) = (checkAll check items).mapError convert := by
  induction items with
  | nil => rfl
  | cons item rest ih =>
      obtain ⟨head, later⟩ := List.forall_mem_cons.mp same
      rw [List.map_cons, check_all_step, check_all_step, then_map_error, head, ih later]

end TensorGraph
