import Mathlib.Data.List.Dedup
import TensorGraph.Proofs.Interning

set_option autoImplicit false

namespace TensorGraph

inductive PoolRequest where
  | intern (type : TensorType)
  | plain (element : Element) (dims : Dims)
  | quantized (element : Element) (dims : Dims) (scale : Binary32) (offset : Int32)
  | reshape (base : TypeHandle) (dims : Dims)
  | void
deriving DecidableEq, Repr

namespace TypePool

-- A type that was never issued cannot be reshaped. Every other request is answered.
def answer (pool : TypePool) : PoolRequest → Option (TypeHandle × TypePool)
  | .intern type => some (pool.intern type)
  | .plain element dims => some (pool.intern (.plain element dims))
  | .quantized element dims scale offset => some (pool.intern (.quantized element dims scale offset))
  | .reshape base dims => pool.reshape? base dims
  | .void => some (pool.intern .void)

def after (pool : TypePool) (request : PoolRequest) : TypePool :=
  match pool.answer request with
  | some (_, next) => next
  | none => pool

def serve (pool : TypePool) (requests : List PoolRequest) : TypePool := requests.foldl after pool

-- The type that a request asks for, in the words of the request.
def wanted? (pool : TypePool) : PoolRequest → Option TensorType
  | .intern type => some type
  | .plain element dims => some ⟨element, dims, none⟩
  | .quantized element dims scale offset => some ⟨element, dims, some ⟨scale, offset⟩⟩
  | .reshape base dims => (pool.get? base).map fun type => ⟨type.element, dims, type.quantization⟩
  | .void => some ⟨.float, [], none⟩

def wantedAll (pool : TypePool) : List PoolRequest → List TensorType
  | [] => []
  | request :: rest => (pool.wanted? request).toList ++ (pool.after request).wantedAll rest

end TypePool

structure TensorType.Agrees (a b : TensorType) : Prop where
  element : a.element = b.element
  dims : a.dims = b.dims
  quantized : a.quantization.isSome = b.quantization.isSome
  parameters : ∀ p ∈ a.quantization, ∀ q ∈ b.quantization, p.offset = q.offset ∧
    p.scale.bits = q.scale.bits

-- From now on the handle leads to the type, and a request is given it exactly when it asks for a type
-- that agrees.
def TypePool.Binds (pool : TypePool) (handle : TypeHandle) (type : TensorType) : Prop :=
  ∀ requests, (pool.serve requests).get? handle = some type ∧
    ∀ request other, (pool.serve requests).wanted? request = some other →
      ∃ given next, (pool.serve requests).answer request = some (given, next) ∧
        (given = handle ↔ other.Agrees type)

theorem agrees_iff (a b : TensorType) : a.Agrees b ↔ a = b := by
  constructor
  · intro agrees
    obtain ⟨element, dims, quantization⟩ := a
    obtain ⟨otherElement, otherDims, otherQuantization⟩ := b
    obtain ⟨rfl, rfl, present, parameters⟩ := agrees
    cases quantization with
    | none => cases otherQuantization with
      | none => rfl
      | some q => simp at present
    | some p => cases otherQuantization with
      | none => simp at present
      | some q =>
          obtain ⟨⟨scale⟩, offset⟩ := p
          obtain ⟨⟨otherScale⟩, otherOffset⟩ := q
          obtain ⟨rfl, rfl⟩ := parameters _ rfl _ rfl
          rfl
  · rintro rfl
    refine ⟨rfl, rfl, rfl, ?_⟩
    intro p held q same
    cases Option.some.inj (held.symm.trans same)
    exact ⟨rfl, rfl⟩

theorem answer_interns (pool : TypePool) (request : PoolRequest) :
    pool.answer request = (pool.wanted? request).map pool.intern := by
  cases request with
  | reshape base dims =>
      simp only [TypePool.answer, TypePool.wanted?, TypePool.reshape?, Option.map_map]
      rfl
  | _ => rfl

theorem after_interned (pool : TypePool) (request : PoolRequest) :
    pool.after request = (pool.internAll (pool.wanted? request).toList).2 := by
  unfold TypePool.after
  rw [answer_interns]
  cases pool.wanted? request with
  | none => rfl
  | some type => rfl

theorem serve_interned (pool : TypePool) (requests : List PoolRequest) :
    pool.serve requests = (pool.internAll (pool.wantedAll requests)).2 := by
  induction requests generalizing pool with
  | nil => rfl
  | cons request rest ih =>
      rw [TypePool.wantedAll, intern_all_append, ← after_interned]
      exact ih (pool.after request)

theorem intern_all_exact (pool : TypePool) (types : List TensorType) (exact : pool.Exact) :
    (pool.internAll types).2.Exact := by
  induction types generalizing pool with
  | nil => exact exact
  | cons type rest ih => exact ih (pool.intern type).2 (intern_exact pool type exact)

theorem exact_pool_distinct (pool : TypePool) (exact : pool.Exact) : pool.types.Nodup := by
  rw [List.nodup_iff_getElem?_ne_getElem?]
  intro i j less inside same
  obtain ⟨type, found⟩ : ∃ type, pool.types[i]? = some type :=
    ⟨_, List.getElem?_eq_getElem (Nat.lt_trans less inside)⟩
  have first := (exact type ⟨i⟩).mpr found
  have second := (exact type ⟨j⟩).mpr (same.symm.trans found)
  have index := TypeHandle.mk.inj (Option.some.inj (first.symm.trans second))
  omega

theorem exact_pool_size (types : List TensorType) :
    (({} : TypePool).internAll types).2.size = types.dedup.length := by
  have exact := intern_all_exact {} types empty_pool_exact
  have members : ∀ type, type ∈ (({} : TypePool).internAll types).2.types ↔ type ∈ types.dedup := by
    intro type
    rw [intern_all_member_iff {} empty_pool_exact, List.mem_dedup]
    simp
  exact ((List.perm_ext_iff_of_nodup (exact_pool_distinct _ exact) (List.nodup_dedup types)).mpr
    members).length_eq

theorem interned_handle_iff (pool : TypePool) (exact : pool.Exact) (handle : TypeHandle)
    (type other : TensorType)
    (known : pool.get? handle = some type) : (pool.intern other).1 = handle ↔ other = type := by
  constructor
  · intro same
    have found := intern_found pool other exact
    rw [same, intern_extends pool other handle type known] at found
    exact (Option.some.inj found).symm
  · rintro rfl
    have listed := (exact other handle).mpr known
    simp [TypePool.intern, listed]

theorem exact_pool_binds (pool : TypePool) (exact : pool.Exact) (handle : TypeHandle) (type : TensorType)
    (known : pool.get? handle = some type) : pool.Binds handle type := by
  intro requests
  have later : (pool.serve requests).get? handle = some type := by
    rw [serve_interned]
    exact intern_all_extends pool _ handle type known
  refine ⟨later, ?_⟩
  intro request other wanted
  have laterExact : (pool.serve requests).Exact := by
    rw [serve_interned]
    exact intern_all_exact pool _ exact
  refine ⟨_, _, by rw [answer_interns, wanted]; rfl, ?_⟩
  rw [agrees_iff]
  exact interned_handle_iff _ laterExact handle type other later

theorem pools_issue_one_handle_per_type (requests : List PoolRequest) :
    let pool := ({} : TypePool).serve requests
    pool.types.Nodup ∧ pool.Exact ∧ pool.size = (({} : TypePool).wantedAll requests).dedup.length ∧
      ∀ request type, pool.wanted? request = some type →
        ∃ handle next, pool.answer request = some (handle, next) ∧ next.Binds handle type := by
  intro pool
  have interned : pool = (({} : TypePool).internAll (({} : TypePool).wantedAll requests)).2 :=
    serve_interned {} requests
  have exact : pool.Exact := interned ▸ intern_all_exact {} _ empty_pool_exact
  refine ⟨exact_pool_distinct pool exact, exact, ?_, ?_⟩
  · rw [interned]
    exact exact_pool_size _
  · intro request type wanted
    refine ⟨(pool.intern type).1, (pool.intern type).2, ?_, ?_⟩
    · rw [answer_interns, wanted]
      rfl
    · exact exact_pool_binds _ (intern_exact pool type exact) _ type (intern_found pool type exact)

-- The scale is a NaN; another NaN, or a zero of the other sign, would be another type.
theorem reshaped_nan_type_is_bound :
    let pool := ({} : TypePool).serve [.quantized .int8Q [2] ⟨0x7fc00000⟩ 3, .void, .plain .float []]
    let reshaped : TensorType := ⟨.int8Q, [4], some ⟨⟨0x7fc00000⟩, 3⟩⟩
    pool.size = 2 ∧ pool.wanted? (.reshape ⟨0⟩ [4]) = some reshaped ∧
      ∃ handle next, pool.answer (.reshape ⟨0⟩ [4]) = some (handle, next) ∧
        next.Binds handle reshaped := by
  intro pool reshaped
  have wanted : pool.wanted? (.reshape ⟨0⟩ [4]) = some reshaped := by decide
  obtain ⟨_, _, _, bound⟩ :=
    pools_issue_one_handle_per_type [.quantized .int8Q [2] ⟨0x7fc00000⟩ 3, .void, .plain .float []]
  exact ⟨by decide, wanted, bound (.reshape ⟨0⟩ [4]) reshaped wanted⟩

end TensorGraph
