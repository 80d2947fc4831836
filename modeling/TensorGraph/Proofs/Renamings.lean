import Mathlib.Logic.Equiv.Defs
import TensorGraph.Proofs.Additions

set_option autoImplicit false

namespace TensorGraph

-- Two neighbouring blocks of numbers change places. Other numbers stay.
def blockSwapped (start first second n : Nat) : Nat :=
  if n < start then n
  else if n < start + first then n + second
  else if n < start + first + second then n - first
  else n

theorem blocks_swapped_back (start first second n : Nat) :
    blockSwapped start second first (blockSwapped start first second n) = n := by
  unfold blockSwapped
  grind

def blockSwap (start first second : Nat) : Equiv.Perm Nat :=
  ⟨blockSwapped start first second, blockSwapped start second first,
    blocks_swapped_back start first second, blocks_swapped_back start second first⟩

section Blocks

variable (start first second : Nat)

theorem below_blocks (n : Nat) (below : n < start) : blockSwap start first second n = n := if_pos below

theorem first_block (i : Nat) (inside : i < first) :
    blockSwap start first second (start + i) = start + second + i := by
  have inFirst : start + i < start + first := by omega
  rw [show blockSwap start first second (start + i) = blockSwapped start first second (start + i)
    from rfl, blockSwapped, if_neg (by omega), if_pos inFirst]
  omega

theorem second_block (i : Nat) (inside : i < second) :
    blockSwap start first second (start + first + i) = start + i := by
  have inSecond : start + first + i < start + first + second := by omega
  rw [show blockSwap start first second (start + first + i) =
    blockSwapped start first second (start + first + i) from rfl,
    blockSwapped, if_neg (by omega), if_neg (by omega), if_pos inSecond]
  omega

end Blocks

section Places

variable {α : Type} [DecidableEq α] (source target : List α)

-- Where an item of one list stands in another.
def placeIn (i : Nat) : Nat :=
  match source[i]? with
  | some item => target.idxOf item
  | none => i

variable (apart : source.Nodup) (same : source.Perm target)

include same

theorem item_at_place (i : Nat) : target[placeIn source target i]? = source[i]? := by
  unfold placeIn
  cases access : source[i]? with
  | none => exact List.getElem?_eq_none (same.length_eq ▸ List.getElem?_eq_none_iff.mp access)
  | some item =>
      have inside : target.idxOf item < target.length :=
        List.idxOf_lt_length_iff.mpr (same.mem_iff.mp (List.mem_of_getElem? access))
      exact (List.getElem?_eq_getElem inside).trans (congrArg some (List.getElem_idxOf inside))

include apart

theorem placed_back (i : Nat) : placeIn target source (placeIn source target i) = i := by
  have there := item_at_place source target same i
  rw [placeIn, there]
  cases access : source[i]? with
  | none => simp only [placeIn, access]
  | some item =>
      obtain ⟨below, rfl⟩ := List.getElem?_eq_some_iff.mp access
      exact apart.idxOf_getElem i below

def samePlaces : Equiv.Perm Nat :=
  ⟨placeIn source target, placeIn target source, placed_back source target apart same,
    placed_back target source (same.nodup_iff.mp apart) same.symm⟩

end Places

-- New numbers for those that were given out.
structure Exchange where
  stored : Equiv.Perm Nat
  suffixes : Equiv.Perm Nat
  nodes : Equiv.Perm Nat
  types : Equiv.Perm Nat

namespace Exchange

def node (exchange : Exchange) (id : NodeId) : NodeId := ⟨exchange.nodes id.index⟩

def handle (exchange : Exchange) (handle : TypeHandle) : TypeHandle := ⟨exchange.types handle.index⟩

def producer (exchange : Exchange) : Producer → Producer
  | .var id => .var ⟨exchange.stored id.index⟩
  | .node id => .node (exchange.node id)

def edge (exchange : Exchange) (edge : Edge) : Edge := ⟨exchange.producer edge.producer, edge.slot⟩

structure Keeps (exchange : Exchange) (network : Network) : Prop where
  stored : ∀ n < network.nextVariable, exchange.stored n = n
  suffixes : ∀ n < network.nextSuffix, exchange.suffixes n = n
  nodes : ∀ n < network.nextNode, exchange.nodes n = n
  types : ∀ n < network.types.size, exchange.types n = n

-- Two names that were made for one request.
def Names (exchange : Exchange) (a b : String) : Prop :=
  ∃ suffix requested, a = uniqueName suffix requested ∧
    b = uniqueName (exchange.suffixes suffix) requested

structure Renames (exchange : Exchange) (a b : Node) : Prop where
  id : b.id = exchange.node a.id
  operator : b.operator = a.operator
  inputs : b.inputs = a.inputs.map exchange.edge
  predicate : b.predicate = a.predicate.map exchange.edge
  results : b.results = a.results.map exchange.handle

-- A node that stood in the base is the same; one that came later has other numbers.
inductive MatchesNode (exchange : Exchange) (base : Network) : Node → Node → Prop where
  | kept (node : Node) (old : node.id.index < base.nextNode) : MatchesNode exchange base node node
  | made (a b : Node) (new : base.nextNode ≤ a.id.index) (renames : exchange.Renames a b)
      (named : exchange.Names a.name b.name) : MatchesNode exchange base a b

inductive MatchesVariable (exchange : Exchange) (base : Network) : Variable → Variable → Prop where
  | kept (v : Variable) (old : v.id.index < base.nextVariable) : MatchesVariable exchange base v v
  | made (a b : Variable) (new : base.nextVariable ≤ a.id.index)
      (id : b.id = ⟨exchange.stored a.id.index⟩)
      (named : exchange.Names a.name b.name) (type : b.type = exchange.handle a.type)
      (visibility : b.visibility = a.visibility) (initializer : b.initializer = a.initializer)
      (payload : b.payload = a.payload) : MatchesVariable exchange base a b

end Exchange

structure Function.Alike (alike : Node → Node → Prop) (a b : Function) : Prop where
  id : b.id = a.id
  name : b.name = a.name
  nodes : List.Forall₂ alike a.nodes b.nodes

def Exchange.RenamesAll (exchange : Exchange) (first second : Network) : Prop :=
  List.Forall₂ (Function.Alike exchange.Renames) first.functions second.functions

-- Two networks that have grown from one base, alike but for the numbers given out since.
structure Exchange.Matches (exchange : Exchange) (base first second : Network) : Prop where
  keeps : exchange.Keeps base
  numbering : second.numbering = first.numbering
  types : ∀ handle, second.types.get? (exchange.handle handle) = first.types.get? handle
  storage : ∃ arranged, List.Forall₂ (exchange.MatchesVariable base) first.storage.values arranged ∧
    arranged.Perm second.storage.values
  functions : List.Forall₂ (Function.Alike (exchange.MatchesNode base)) first.functions second.functions

end TensorGraph
