import Mathlib.Data.List.Forall2
import TensorGraph.Types.Pool

set_option autoImplicit false

namespace TensorGraph

-- The table of handles is the inverse of the list of types, so no type is listed twice.
def TypePool.Exact (pool : TypePool) : Prop :=
  ∀ type handle, pool.handles.lookup type = some handle ↔ pool.get? handle = some type

def TypePool.Extends (pool larger : TypePool) : Prop :=
  ∀ handle type, pool.get? handle = some type → larger.get? handle = some type

theorem pool_extends_refl (pool : TypePool) : pool.Extends pool := fun _ _ found => found

theorem pool_extends_trans (a b c : TypePool) (first : a.Extends b) (second : b.Extends c) :
    a.Extends c :=
  fun handle type found => second handle type (first handle type found)

theorem empty_pool_exact : ({} : TypePool).Exact := by
  intro type handle
  simp [TypePool.get?]

theorem appended_entry_iff {α : Type} (items : List α) (last item : α) (i : Nat) :
    (items ++ [last])[i]? = some item ↔ items[i]? = some item ∨ (i = items.length ∧ last = item) := by
  by_cases inside : i < items.length
  · simp [List.getElem?_append_left inside, Nat.ne_of_lt inside]
  · have beyond : items.length ≤ i := Nat.le_of_not_lt inside
    rw [List.getElem?_append_right beyond, List.getElem?_eq_none beyond]
    by_cases same : i = items.length
    · simp [same]
    · have later : i - items.length ≠ 0 := by omega
      simp [same, later]

theorem intern_extends (pool : TypePool) (type : TensorType) : pool.Extends (pool.intern type).2 := by
  intro handle other found
  unfold TypePool.intern
  split
  · exact found
  · exact (appended_entry_iff pool.types type other handle.index).mpr (.inl found)

theorem intern_found (pool : TypePool) (type : TensorType) (exact : pool.Exact) :
    (pool.intern type).2.get? (pool.intern type).1 = some type := by
  unfold TypePool.intern
  split
  · rename_i handle known
    exact (exact type handle).mp known
  · exact (appended_entry_iff pool.types type type pool.types.length).mpr (.inr ⟨rfl, rfl⟩)

theorem intern_exact (pool : TypePool) (type : TensorType) (exact : pool.Exact) :
    (pool.intern type).2.Exact := by
  unfold TypePool.intern
  split
  · exact exact
  · rename_i unknown
    intro other handle
    simp only [TypePool.get?, appended_entry_iff, List.lookup_cons]
    by_cases same : other = type
    · subst other
      have absent : ¬ pool.types[handle.index]? = some type := fun listed => by
        have known := (exact type handle).mpr listed
        simp [unknown] at known
      simp only [BEq.rfl, Option.some.injEq, absent, and_true, false_or]
      constructor
      · intro new
        rw [← new]
      · intro index
        rw [← index]
    · simp only [beq_false_of_ne same, Ne.symm same, and_false, or_false]
      exact exact other handle

theorem intern_all_extends (pool : TypePool) (types : List TensorType) :
    pool.Extends (pool.internAll types).2 := by
  induction types generalizing pool with
  | nil => exact pool_extends_refl pool
  | cons type rest ih =>
      exact pool_extends_trans _ _ _ (intern_extends pool type) (ih (pool.intern type).2)

theorem intern_all_found (pool : TypePool) (types : List TensorType) (exact : pool.Exact) :
    List.Forall₂ (fun handle type => (pool.internAll types).2.get? handle = some type)
      (pool.internAll types).1 types := by
  induction types generalizing pool with
  | nil => exact .nil
  | cons type rest ih =>
      refine .cons ?_ (ih (pool.intern type).2 (intern_exact pool type exact))
      exact intern_all_extends (pool.intern type).2 rest _ _ (intern_found pool type exact)

theorem intern_member_iff (pool : TypePool) (exact : pool.Exact) (type other : TensorType) :
    other ∈ (pool.intern type).2.types ↔ other ∈ pool.types ∨ other = type := by
  unfold TypePool.intern
  split
  · rename_i handle known
    have listed : type ∈ pool.types := List.mem_of_getElem? ((exact type handle).mp known)
    exact ⟨.inl, fun either => either.elim id fun same => same ▸ listed⟩
  · simp

theorem intern_all_member_iff (pool : TypePool) (exact : pool.Exact) (types : List TensorType)
    (other : TensorType) :
    other ∈ (pool.internAll types).2.types ↔ other ∈ pool.types ∨ other ∈ types := by
  induction types generalizing pool with
  | nil => simp [TypePool.internAll]
  | cons type rest ih =>
      rw [TypePool.internAll, ih _ (intern_exact pool type exact), intern_member_iff pool exact,
        List.mem_cons, or_assoc]

theorem intern_all_append (pool : TypePool) (first second : List TensorType) :
    (pool.internAll (first ++ second)).2 = ((pool.internAll first).2.internAll second).2 := by
  induction first generalizing pool with
  | nil => rfl
  | cons type rest ih => exact ih (pool.intern type).2

end TensorGraph
