import TensorGraph.Proofs.Drafting
import TensorGraph.Proofs.StrictOperators

set_option autoImplicit false

namespace TensorGraph

namespace Strict

variable {α : Type}

open Layer

def shapedAs (label : String) (shape : Strict ShapeFault α) : Strict GraphFault α :=
  adapt (fun fault => .invalidAttribute label (.shape fault)) shape

-- An operand with the handle that its type was found under.
def operand (scope : Scope) (label : String) (edge : Edge) :
    Except GraphFault (TypeHandle × TensorType) :=
  match scope.handle? edge with
  | none => .error (.unknownOperand label edge)
  | some handle =>
      match scope.types.get? handle with
      | some type => .ok (handle, type)
      | none => .error (.unknownOperand label edge)

-- The type behind a handle that is taken to be known, with another shape.
def reshape (types : TypePool) (handle : TypeHandle) (dims : Dims) : Option TensorType :=
  (types.get? handle).map fun type => type.withDims dims

theorem reshape_known (types : TypePool) (handle : TypeHandle) (type : TensorType) (dims : Dims)
    (known : types.get? handle = some type) : reshape types handle dims = some (type.withDims dims) := by
  rw [reshape, known]
  rfl

-- What an operand is found under is known.
theorem operand_bind {β : Type} (scope : Scope) (label : String) (edge : Edge)
    (next : TypeHandle × TensorType → Strict GraphFault β) (other : TensorType → Except GraphFault β)
    (same : ∀ handle type, scope.types.get? handle = some type →
      next (handle, type) = tested (other type)) :
    (tested (operand scope label edge) >>= next) = tested (scope.operand label edge >>= other) := by
  unfold operand Scope.operand
  cases scope.handle? edge with
  | none => rfl
  | some handle =>
      cases known : scope.types.get? handle with
      | none =>
          simp only [Option.bind_some, known]
          rfl
      | some type =>
          simp only [Option.bind_some, known]
          exact same handle type known

theorem require_congr {ε : Type} {p q : Prop} [Decidable p] [Decidable q] (same : p ↔ q) (fault : ε) :
    require p fault = require q fault := by
  unfold require
  by_cases holds : p
  · rw [if_pos holds, if_pos (same.mp holds)]
  · rw [if_neg holds, if_neg (mt same.mpr holds)]

-- The target of an input axis is read at a place that is a sum; no list reaches beyond the word.
def stretches (label : String) (axis : Extent) (shape : Dims) : Nat → Dims → Strict GraphFault Unit
  | _, [] => pure ()
  | i, extent :: rest => do
      let target ← must shape[axis.toNat + i]?
      tested (require (extent = 1 ∨ extent = target)
        (.invalidAttribute label (.stretch extent i target)))
      stretches label axis shape (i + 1) rest

theorem stretches_refine (label : String) (axis : Extent) (shape : Dims) (i : Nat) (extents : Dims)
    (inside : axis.toNat + i + extents.length ≤ shape.length) : stretches label axis shape i extents =
      tested (Layer.stretches label i extents (shape.drop (axis.toNat + i))) := by
  induction extents generalizing i with
  | nil => rfl
  | cons extent rest ih =>
      rw [List.length_cons] at inside
      have place : axis.toNat + i < shape.length := by omega
      rw [stretches, List.drop_eq_getElem_cons place, Layer.stretches,
        must_step (List.getElem?_eq_getElem place)]
      exact tested_bind _ _ _ fun _ _ => ih (i + 1) (by omega)

-- What the shape would have to be: the extents of the first tensor, but for the axis of the stack.
def wantedFrom (first : Dims) (axis : Nat) : Nat → Dims → Option Dims
  | _, [] => some []
  | i, extent :: rest => do
      let wanted ← (if i = axis then some extent else first[i]?)
      let others ← wantedFrom first axis (i + 1) rest
      some (wanted :: others)

theorem wanted_from_refines (first : Dims) (axis : Nat) (extent : Extent) (i : Nat) (extents : Dims)
    (rank : i + extents.length = first.length) (kept : ∀ j, i + j = axis → extents[j]? = some extent) :
    wantedFrom first axis i extents = some ((first.set axis extent).drop i) := by
  induction extents generalizing i with
  | nil => rw [wantedFrom, List.drop_of_length_le (by simpa using Nat.le_of_eq rank.symm)]
  | cons head rest ih =>
      rw [List.length_cons] at rank
      have place : i < (first.set axis extent).length := by
        rw [List.length_set]
        omega
      have read : (if i = axis then some head else first[i]?) = some (first.set axis extent)[i] := by
        rw [List.getElem_set]
        by_cases here : i = axis
        · rw [if_pos here, if_pos here.symm]
          exact kept 0 here
        · rw [if_neg here, if_neg (Ne.symm here), List.getElem?_eq_getElem]
      rw [wantedFrom, read, ih (i + 1) (by omega) fun j there => kept (j + 1) (by omega),
        List.drop_eq_getElem_cons place]
      rfl

def stacked (label : String) (axis : Extent) (first : TensorType) (out : Dims) (type : TensorType) :
    Strict GraphFault Dims := do
  tested (require (type.element = first.element) (.elementMismatch label (.unlikeFirst type first)))
  tested (require (type.rank = first.rank) (.rankMismatch label first.rank type.rank))
  if Dims.agreeFrom 0 axis.toNat type.dims first.dims then do
    let total ← must out[axis.toNat]?
    let extent ← must type.dims[axis.toNat]?
    match total.add? extent with
    | some total => must (put? out axis.toNat total)
    | none => tested (.error (.invalidAttribute label (.shape (.concatOverflow axis))))
  else do
    let wanted ← must (wantedFrom first.dims axis.toNat 0 type.dims)
    tested (.error (.shapeMismatch label wanted type.dims))

def stackAll (scope : Scope) (label : String) (axis : Extent) (first : TensorType) :
    Dims → List Edge → Strict GraphFault Dims
  | out, [] => pure out
  | out, edge :: rest => do
      let type ← tested (scope.operand label edge)
      let out ← stacked label axis first out type
      stackAll scope label axis first out rest

section Stack

variable (label : String) (axis : Extent) (first : TensorType) (inside : axis.toNat < first.rank)

include inside

theorem stacked_refines (total : Extent) (type : TensorType) :
    stacked label axis first (first.dims.set axis.toNat total) type =
      tested ((Layer.stacked label axis first total type).map
        fun total => first.dims.set axis.toNat total) := by
  unfold stacked Layer.stacked
  by_cases element : type.element = first.element
  swap
  · simp only [require, if_neg element]
    rfl
  by_cases rank : type.rank = first.rank
  swap
  · simp only [require, if_pos element, if_neg rank]
    rfl
  have read : type.dims[axis.toNat]? = some (type.dims.getD axis.toNat 0) := by
    rw [List.getD_eq_getElem?_getD, List.getElem?_eq_getElem (show axis.toNat < type.rank
      from rank ▸ inside)]
    rfl
  simp only [require, if_pos element, if_pos rank]
  rw [tested_step rfl, tested_step rfl]
  by_cases agrees : Dims.agreeFrom 0 axis.toNat type.dims first.dims = true
  · have written : (first.dims.set axis.toNat total)[axis.toNat]? = some total :=
      List.getElem?_set_self inside
    rw [if_pos agrees, must_step written, must_step read]
    simp only [if_pos agrees]
    cases added : total.add? (type.dims.getD axis.toNat 0) with
    | none => rfl
    | some larger =>
        have placed : put? (first.dims.set axis.toNat total) axis.toNat larger =
            some (first.dims.set axis.toNat larger) := by
          rw [put?, if_pos (by rwa [List.length_set]), List.set_set]
        simp only [placed]
        rfl
  · have wanted := wanted_from_refines first.dims axis.toNat (type.dims.getD axis.toNat 0) 0 type.dims
      ((Nat.zero_add _).trans rank) fun j here => by rw [← here, Nat.zero_add] at read ⊢; exact read
    rw [if_neg agrees, must_step wanted]
    simp only [if_neg agrees]
    rfl

theorem stack_all_refines (scope : Scope) (total : Extent) (edges : List Edge) :
    stackAll scope label axis first (first.dims.set axis.toNat total) edges =
      tested ((scope.stackAll label axis first total edges).map
        fun total => first.dims.set axis.toNat total) := by
  induction edges generalizing total with
  | nil => rfl
  | cons edge rest ih =>
      rw [stackAll, Scope.stackAll]
      cases scope.operand label edge with
      | error fault => rfl
      | ok type =>
          rw [tested_step rfl, stacked_refines label axis first inside]
          cases added : Layer.stacked label axis first total type with
          | error fault =>
              simp only [bind, Except.bind, added]
              rfl
          | ok larger =>
              simp only [bind, Except.bind, added]
              exact ih larger

end Stack

-- A layer without steps of this kind is drafted as it is.
def draft (scope : Scope) (label : String) : Layer → Strict GraphFault Draft
  | .convolution input depth window => do
      let type ← tested (scope.operand label input)
      let images ← tested (imagesOf label type)
      let extents ← shapedAs label (windowOutput window images)
      tested (require (depth ≠ 0) (.invalidAttribute label .emptyDepth))
      let fanIn ← tested (shaped label (Dims.count [window.kernel, window.kernel, images.channels]))
      pure {
        label := label
        operator := .convolution window depth
        operands := [.given input, .fresh 0, .fresh 1]
        parameters := [
          .internal .float [depth, window.kernel, window.kernel, images.channels] "filter"
            (.xavier (.ofNat fanIn.toNat)),
          .internal .float [depth] "bias" (.broadcast biasFill)]
        results := [.plain .float [images.count, extents.1, extents.2, depth]] }
  | .convolutionWith input filter bias result depth window => do
      let type ← tested (scope.operand label input)
      let filterType ← tested (scope.operand label filter)
      let biasType ← tested (scope.operand label bias)
      let images ← tested (imagesOf label type)
      let extents ← shapedAs label (windowOutput window images)
      tested (expectShape label [depth, window.kernel, window.kernel, images.channels] filterType)
      tested (expectCount label depth biasType)
      tested (expectShape label [images.count, extents.1, extents.2, depth] result)
      pure {
        label := label
        operator := .convolution window depth
        operands := [.given input, .given filter, .given bias]
        results := [result] }
  | .pool method input window => do
      let found ← tested (operand scope label input)
      let images ← tested (imagesOf label found.2)
      let extents ← shapedAs label (windowOutput window images)
      let result ← must
        (reshape scope.types found.1 [images.count, extents.1, extents.2, images.channels])
      pure {
        label := label
        operator := .pool method window
        operands := [.given input]
        results := [result] }
  | .fullyConnectedWith input weights bias => do
      let found ← tested (operand scope label input)
      let weightsType ← tested (scope.operand label weights)
      let biasType ← tested (scope.operand label bias)
      let flat ← tested (shaped label found.2.dims.flattened)
      tested (require (weightsType.rank = 2) (.rankMismatch label 2 weightsType.rank))
      let columns ← must weightsType.dims[1]?
      let rows ← must weightsType.dims[0]?
      tested (require (rows = flat.2) (.shapeMismatch label [flat.2, columns] weightsType.dims))
      tested (expectCount label columns biasType)
      let result ← must (reshape scope.types found.1 [flat.1, columns])
      pure {
        label := label
        operator := .fullyConnected
        operands := [.given input, .given weights, .given bias]
        results := [result] }
  | .crossEntropyLoss input labels => do
      let found ← tested (operand scope label input)
      let _ ← tested (scope.operand label labels)
      let result ← must (reshape scope.types found.1 [1])
      pure {
        label := label
        operator := .crossEntropyLoss
        operands := [.given input, .given labels]
        results := [result] }
  | .reshape input dims => do
      let found ← tested (operand scope label input)
      let wanted ← tested (shaped label dims.count)
      let given ← tested (shaped label found.2.dims.count)
      tested (require (wanted = given) (.invalidAttribute label (.reshape given dims wanted)))
      let result ← must (reshape scope.types found.1 dims)
      pure { label := label, operator := .reshape dims, operands := [.given input], results := [result] }
  | .transpose input shuffle => do
      let found ← tested (operand scope label input)
      let dims ← shapedAs label (transpose found.2.dims shuffle)
      let result ← must (reshape scope.types found.1 dims)
      pure { label := label, operator := .transpose shuffle, operands := [.given
        input], results := [result] }
  | .broadcast input shape axis => do
      let type ← tested (scope.operand label input)
      tested (require (axis.toNat + type.rank ≤ shape.length)
        (.invalidAttribute label (.placement type axis shape)))
      stretches label axis shape 0 type.dims
      pure {
        label := label
        operator := .broadcast shape axis
        operands := [.given input]
        results := [.plain type.element shape] }
  | .concat inputs axis =>
      match inputs.head? with
      | none => tested (.error (.invalidAttribute label (.shape .nothingToConcat)))
      | some first => do
          let found ← tested (operand scope label first)
          tested (require (axis.toNat < found.2.rank)
            (.invalidAttribute label (.concatAxis axis found.2)))
          let rest ← must (from? inputs 1)
          let dims ← stackAll scope label axis found.2 found.2.dims rest
          let result ← must (reshape scope.types found.1 dims)
          pure {
            label := label
            operator := .concat axis
            operands := inputs.map .given
            results := [result] }
  | .slice input start stop => do
      let found ← tested (operand scope label input)
      let dims ← shapedAs label (slice found.2.dims start stop)
      let result ← must (reshape scope.types found.1 dims)
      pure { label := label, operator := .slice start, operands := [.given input], results := [result] }
  | .matMul lhs rhs => do
      let found ← tested (operand scope label lhs)
      let rhsType ← tested (scope.operand label rhs)
      tested (require (found.2.rank = 2) (.rankMismatch label 2 found.2.rank))
      tested (require (rhsType.rank = 2) (.rankMismatch label 2 rhsType.rank))
      tested (require (found.2.element = rhsType.element)
        (.elementMismatch label (.unequal found.2 rhsType)))
      let inner ← must found.2.dims[1]?
      let length ← must rhsType.dims[0]?
      let columns ← must rhsType.dims[1]?
      tested (require (inner = length) (.shapeMismatch label [inner, columns] rhsType.dims))
      let rows ← must found.2.dims[0]?
      let result ← must (reshape scope.types found.1 [rows, columns])
      pure {
        label := label
        operator := .matMul
        operands := [.given lhs, .given rhs]
        results := [result] }
  | .gather data indices => do
      let found ← tested (operand scope label data)
      let indicesType ← tested (scope.operand label indices)
      let dims ← shapedAs label (gather found.2.dims indicesType.dims)
      let result ← must (reshape scope.types found.1 dims)
      pure {
        label := label
        operator := .gather
        operands := [.given data, .given indices]
        results := [result] }
  | layer => tested (scope.draft label layer)

theorem shaped_refines (label : String) (shape : Except ShapeFault α) :
    shapedAs label (tested shape) = tested (shaped label shape) := rfl

-- A matrix is a list of two extents; any other fails the test of its rank.
theorem matrix_bind {β : Type} (label : String) (dims : Dims) (next : Unit → Strict GraphFault β)
    (other : Extent × Extent → Except GraphFault β)
    (same : ∀ rows columns, dims = [rows, columns] → next () = tested (other (rows, columns))) :
    (tested (require (dims.length = 2) (.rankMismatch label 2 dims.length)) >>= next) =
      tested (matrixDims label dims >>= other) := by
  by_cases rank : dims.length = 2
  · obtain ⟨rows, columns, rfl⟩ := List.length_eq_two.mp rank
    exact same rows columns rfl
  · rw [require, if_neg rank]
    unfold matrixDims
    split
    · exact absurd rfl rank
    · rfl

theorem draft_refines (scope : Scope) (label : String) (layer : Layer) :
    draft scope label layer = tested (scope.draft label layer) := by
  cases layer
  case convolution input depth window =>
    simp only [draft, Scope.draft, window_output_refines, shaped_refines, tested_then]
    rfl
  case convolutionWith input filter bias result depth window =>
    simp only [draft, Scope.draft, window_output_refines, shaped_refines, tested_then]
    rfl
  case pool method input window =>
    refine operand_bind _ _ _ _ _ fun handle type known => ?_
    simp only [window_output_refines, shaped_refines, tested_then, reshape_known _ _ _ _ known]
    rfl
  case fullyConnectedWith input weights bias =>
    refine operand_bind _ _ _ _ _ fun handle type known => ?_
    refine tested_bind _ _ _ fun weightsType _ => ?_
    refine tested_bind _ _ _ fun biasType _ => ?_
    refine tested_bind _ _ _ fun flat _ => ?_
    refine matrix_bind label weightsType.dims _ _ fun rows columns dims => ?_
    have fits : rows = flat.2 ↔ weightsType.dims = [flat.2, columns] := by simp [dims]
    rw [must_step (show weightsType.dims[1]? = some columns by rw [dims]; rfl),
      must_step (show weightsType.dims[0]? = some rows by rw [dims]; rfl), require_congr fits]
    simp only [tested_then, reshape_known _ _ _ _ known]
    rfl
  case crossEntropyLoss input labels =>
    refine operand_bind _ _ _ _ _ fun handle type known => ?_
    simp only [tested_then, reshape_known _ _ _ _ known]
    rfl
  case reshape input dims =>
    refine operand_bind _ _ _ _ _ fun handle type known => ?_
    simp only [tested_then, reshape_known _ _ _ _ known]
    rfl
  case transpose input shuffle =>
    refine operand_bind _ _ _ _ _ fun handle type known => ?_
    simp only [transpose_refines, shaped_refines, tested_then, reshape_known _ _ _ _ known]
    rfl
  case broadcast input shape axis =>
    refine tested_bind _ _ _ fun type _ => ?_
    refine tested_bind _ _ _ fun _ fits => ?_
    rw [stretches_refine label axis shape 0 type.dims ((require_ok_iff _ _).mp fits)]
    simp only [tested_then]
    rfl
  case concat inputs axis =>
    cases inputs with
    | nil => rfl
    | cons first rest =>
        refine operand_bind _ _ _ _ _ fun handle type known => ?_
        refine tested_bind _ _ _ fun _ placed => ?_
        have inside := (require_ok_iff _ _).mp placed
        have read : type.dims.set axis.toNat (type.dims.getD axis.toNat 0) = type.dims := by
          rw [List.getD_eq_getElem?_getD,
            List.getElem?_eq_getElem (show axis.toNat < type.dims.length from inside)]
          exact List.set_getElem_self _
        have stacking :=
          stack_all_refines label axis type inside scope (type.dims.getD axis.toNat 0) rest
        rw [read] at stacking
        rw [must_step (show from? (first :: rest) 1 = some rest from rfl), stacking]
        simp only [← tested_map, bind_assoc, tested_then, reshape_known _ _ _ _ known]
        rfl
  case slice input start stop =>
    refine operand_bind _ _ _ _ _ fun handle type known => ?_
    simp only [slice_refines, shaped_refines, tested_then, reshape_known _ _ _ _ known]
    rfl
  case matMul lhs rhs =>
    refine operand_bind _ _ _ _ _ fun handle type known => ?_
    refine tested_bind _ _ _ fun rhsType _ => ?_
    refine matrix_bind label type.dims _ _ fun rows inner left => ?_
    refine matrix_bind label rhsType.dims _ _ fun length columns right => ?_
    refine tested_bind _ _ _ fun _ _ => ?_
    have fits : inner = length ↔ rhsType.dims = [inner, columns] := by simp [right, eq_comm]
    rw [must_step (show type.dims[1]? = some inner by rw [left]; rfl),
      must_step (show rhsType.dims[0]? = some length by rw [right]; rfl),
      must_step (show rhsType.dims[1]? = some columns by rw [right]; rfl), require_congr fits,
      must_step (show type.dims[0]? = some rows by rw [left]; rfl)]
    simp only [tested_then, reshape_known _ _ _ _ known]
    rfl
  case gather data indices =>
    refine operand_bind _ _ _ _ _ fun handle type known => ?_
    simp only [gather_refines, shaped_refines, tested_then, reshape_known _ _ _ _ known]
    rfl
  all_goals rfl

end Strict

end TensorGraph
