import TensorGraph.Proofs.Shapes

set_option autoImplicit false

namespace TensorGraph

/- Computations with the steps that the program takes unchecked. Outer none stands for such a step that
   cannot be taken: an index outside of its list, a missing key, a number outside of its word. A fault is
   an answer. -/
def Strict (ε α : Type) : Type := ExceptT ε Option α

namespace Strict

instance (ε : Type) : Monad (Strict ε) := inferInstanceAs (Monad (ExceptT ε Option))

instance (ε : Type) : LawfulMonad (Strict ε) := inferInstanceAs (LawfulMonad (ExceptT ε Option))

variable {α β ε δ : Type}

def must (step : Option α) : Strict ε α := ExceptT.mk (step.map .ok)

def tested (outcome : Except ε α) : Strict ε α := ExceptT.mk (some outcome)

-- What a computation comes to, once it has taken all its steps.
def outcome? (steps : Strict ε α) : Option (Except ε α) := ExceptT.run steps

theorem must_some (value : α) (next : α → Strict ε β) : (must (some value) >>= next) = next value := rfl

theorem must_step {step : Option α} {value : α} (taken : step = some value) (next : α → Strict ε β) :
    (must step >>= next) = next value := by
  subst taken
  rfl

theorem tested_step {outcome : Except ε α} {value : α} (taken : outcome = .ok value)
    (next : α → Strict ε β) :
    (tested outcome >>= next) = next value := by
  subst taken
  rfl

theorem tested_fault {outcome : Except ε α} {fault : ε} (failed : outcome = .error fault)
    (next : α → Strict ε β) :
    (tested outcome >>= next) = tested (.error fault) := by
  subst failed
  rfl

theorem tested_bind (first : Except ε α) (next : α → Strict ε β) (other : α → Except ε β)
    (same : ∀ value, first = .ok value → next value = tested (other value)) :
    (tested first >>= next) = tested (first >>= other) := by
  cases outcome : first with
  | error fault => rfl
  | ok value => exact same value outcome

theorem tested_then (first : Except ε α) (next : α → Except ε β) :
    tested (first >>= next) = (tested first >>= fun value => tested (next value)) :=
  (tested_bind first _ next fun _ _ => rfl).symm

theorem tested_map (outcome : Except ε α) (change : α → β) :
    (tested outcome >>= fun value => pure (change value)) = tested (outcome.map change) := by
  cases outcome with
  | error fault => rfl
  | ok value => rfl

def adapt (convert : ε → δ) (steps : Strict ε α) : Strict δ α := ExceptT.adapt convert steps

theorem tested_adapt (convert : ε → δ) (outcome : Except ε α) :
    adapt convert (tested outcome) = tested (outcome.mapError convert) := rfl

def sub? (a b : Extent) : Option Extent := if b ≤ a then some (a - b) else none

def div? (a b : Extent) : Option Extent := if b = 0 then none else some (a / b)

def put? (list : List α) (i : Nat) (value : α) : Option (List α) :=
  if i < list.length then some (list.set i value) else none

def from? (list : List α) (i : Nat) : Option (List α) :=
  if i ≤ list.length then some (list.drop i) else none

def windowPositions (window : Window) (total : Extent) : Strict ShapeFault Extent := do
  let room ← must (sub? total window.kernel)
  let steps ← must (div? room window.stride)
  must (Extent.add? steps 1)

def windowOutput (window : Window) (images : Images) : Strict ShapeFault (Extent × Extent) :=
  if window.kernel = 0 then tested (.error .emptyKernel)
  else if window.stride = 0 then tested (.error .emptyStride)
  else if images.height < window.kernel ∨ images.width < window.kernel then
    tested (.error (.smallerThanKernel images.height images.width window.kernel))
  else do
    let height ← tested (window.padded images.height)
    let rows ← windowPositions window height
    let width ← tested (window.padded images.width)
    let columns ← windowPositions window width
    pure (rows, columns)

theorem padded_covers (window : Window) (extent total : Extent)
    (padded : window.padded extent = .ok total) :
    extent.toNat ≤ total.toNat := by
  obtain ⟨fits, rfl⟩ := (padded_iff window extent total).mp padded
  rw [padded_total window extent fits]
  exact Nat.le_add_left _ _

theorem window_positions_refine (window : Window) (total : Extent) (kernel : window.kernel ≠ 0)
    (stride : window.stride ≠ 0) (covered : window.kernel.toNat ≤ total.toNat) :
    windowPositions window total = tested (.ok (window.positions total)) := by
  have room := UInt64.toNat_sub_of_le total window.kernel (UInt64.le_iff_toNat_le.mpr covered)
  have left : sub? total window.kernel = some (total - window.kernel) :=
    if_pos (UInt64.le_iff_toNat_le.mpr covered)
  have steps : div? (total - window.kernel) window.stride =
      some ((total - window.kernel) / window.stride) :=
    if_neg stride
  have last : Extent.add? ((total - window.kernel) / window.stride) 1 =
      some (window.positions total) := by
    rw [extent_sum_iff, positions_total window total kernel covered, UInt64.toNat_div, room]
    rfl
  rw [windowPositions, must_step left, must_step steps, last]
  rfl

theorem window_output_refines (window : Window) (images : Images) :
    windowOutput window images = tested (window.output images) := by
  unfold windowOutput Window.output
  by_cases kernel : window.kernel = 0
  · rw [if_pos kernel, if_pos kernel]
  by_cases stride : window.stride = 0
  · rw [if_neg kernel, if_neg kernel, if_pos stride, if_pos stride]
  by_cases small : images.height < window.kernel ∨ images.width < window.kernel
  · rw [if_neg kernel, if_neg kernel, if_neg stride, if_neg stride, if_pos small, if_pos small]
  rw [if_neg kernel, if_neg kernel, if_neg stride, if_neg stride, if_neg small, if_neg small]
  obtain ⟨tall, wide⟩ := not_or.mp small
  cases paddedHeight : window.padded images.height with
  | error fault => rfl
  | ok height =>
      have coveredHeight := Nat.le_trans (UInt64.le_iff_toNat_le.mp (UInt64.not_lt.mp tall))
        (padded_covers window _ height paddedHeight)
      rw [tested_step rfl, window_positions_refine window height kernel stride coveredHeight,
        tested_step rfl]
      cases paddedWidth : window.padded images.width with
      | error fault => rfl
      | ok width =>
          have coveredWidth := Nat.le_trans (UInt64.le_iff_toNat_le.mp (UInt64.not_lt.mp wide))
            (padded_covers window _ width paddedWidth)
          rw [tested_step rfl, window_positions_refine window width kernel stride coveredWidth,
            tested_step rfl]
          rfl

-- Adds the extents up in place of the first shape's own.
def stack (first : Dims) (axis : Extent) : Nat → Dims → List Dims → Strict ShapeFault Dims
  | _, out, [] => pure out
  | position, out, dims :: rest =>
      if first.agreeExcept axis.toNat dims then do
        let total ← must out[axis.toNat]?
        let extent ← must dims[axis.toNat]?
        match total.add? extent with
        | some total => do
            let out ← must (put? out axis.toNat total)
            stack first axis (position + 1) out rest
        | none => tested (.error (.concatOverflow axis))
      else tested (.error (.concatShape position dims first axis))

def concat (axis : Extent) : List Dims → Strict ShapeFault Dims
  | [] => tested (.error .nothingToConcat)
  | first :: rest =>
      if first.length ≤ axis.toNat then tested (.error (.concatAxis axis first.length))
      else do
        let out ← must (put? first axis.toNat 0)
        stack first axis 0 out (first :: rest)

theorem stack_refines (first : Dims) (axis : Extent) (inside : axis.toNat < first.length)
    (position : Nat) (total : Extent) (shapes : List Dims) :
    stack first axis position (first.set axis.toNat total) shapes =
      tested ((Dims.stackedExtent first axis position total shapes).map
        fun total => first.set axis.toNat total) := by
  induction shapes generalizing position total with
  | nil => rfl
  | cons dims rest ih =>
      rw [stack, Dims.stackedExtent]
      by_cases agrees : first.agreeExcept axis.toNat dims = true
      · have rank := ((agree_except_iff axis.toNat first dims).mp agrees).1
        have written : (first.set axis.toNat total)[axis.toNat]? = some total :=
          List.getElem?_set_self inside
        have read : dims[axis.toNat]? = some (dims.getD axis.toNat 0) := by
          rw [List.getD_eq_getElem?_getD, List.getElem?_eq_getElem (rank ▸ inside)]
          rfl
        rw [if_pos agrees, if_pos agrees, must_step written, must_step read]
        cases added : total.add? (dims.getD axis.toNat 0) with
        | none => rfl
        | some larger =>
            have placed : put? (first.set axis.toNat total) axis.toNat larger =
                some (first.set axis.toNat larger) := by
              rw [put?, if_pos (by rwa [List.length_set]), List.set_set]
            exact (must_step placed _).trans (ih (position + 1) larger)
      · rw [if_neg agrees, if_neg agrees]
        rfl

theorem concat_refines (axis : Extent) (shapes : List Dims) :
    concat axis shapes = tested (Dims.concat axis shapes) := by
  cases shapes with
  | nil => rfl
  | cons first rest =>
      rw [concat, Dims.concat]
      by_cases outside : first.length ≤ axis.toNat
      · rw [if_pos outside, if_pos outside]
      · have inside := Nat.lt_of_not_le outside
        have cleared : put? first axis.toNat 0 = some (first.set axis.toNat 0) := if_pos inside
        rw [if_neg outside, if_neg outside, must_step cleared]
        exact stack_refines first axis inside 0 0 (first :: rest)

def rangeLengths (axis : Nat) : List Extent → List Extent → Dims → Strict ShapeFault Dims
  | start :: starts, stop :: stops, extent :: dims =>
      if start < stop ∧ stop ≤ extent then do
        let length ← must (sub? stop start)
        let lengths ← rangeLengths (axis + 1) starts stops dims
        pure (length :: lengths)
      else tested (.error (.boundOrder axis start stop extent))
  | _, _, _ => pure []

def slice (dims : Dims) (starts stops : List Extent) : Strict ShapeFault Dims :=
  if starts.length ≠ stops.length then tested (.error (.boundCounts starts.length stops.length))
  else if starts.length ≠ dims.length then tested (.error (.boundRank starts.length dims.length))
  else rangeLengths 0 starts stops dims

theorem range_lengths_refine (axis : Nat) (starts stops : List Extent) (dims : Dims) :
    rangeLengths axis starts stops dims = tested (Dims.rangeLengths axis starts stops dims) := by
  induction starts generalizing axis stops dims with
  | nil => rfl
  | cons start starts ih =>
      cases stops with
      | nil => rfl
      | cons stop stops =>
          cases dims with
          | nil => rfl
          | cons extent dims =>
              rw [rangeLengths, Dims.rangeLengths]
              by_cases bounds : start < stop ∧ stop ≤ extent
              · have length : sub? stop start = some (stop - start) := if_pos (UInt64.le_of_lt bounds.1)
                rw [if_pos bounds, if_pos bounds, must_step length, ih]
                exact tested_map _ _
              · rw [if_neg bounds, if_neg bounds]

theorem slice_refines (dims : Dims) (starts stops : List Extent) :
    slice dims starts stops = tested (dims.slice starts stops) := by
  unfold slice Dims.slice
  by_cases counts : starts.length ≠ stops.length
  · rw [if_pos counts, if_pos counts]
  by_cases rank : starts.length ≠ dims.length
  · rw [if_neg counts, if_neg counts, if_pos rank, if_pos rank]
  rw [if_neg counts, if_neg counts, if_neg rank, if_neg rank]
  exact range_lengths_refine 0 starts stops dims

-- Ticks the axes of a shuffle off on a list with one mark for each axis of the rank.
def tickOff (shuffle : List Extent) (rank : Nat) : List Bool → List Extent → Strict ShapeFault Unit
  | _, [] => pure ()
  | marks, axis :: rest =>
      if rank ≤ axis.toNat then tested (.error (.notPermutation shuffle))
      else do
        let met ← must marks[axis.toNat]?
        if met then tested (.error (.notPermutation shuffle))
        else do
          let marks ← must (put? marks axis.toNat true)
          tickOff shuffle rank marks rest

def pick (dims : Dims) : List Extent → Strict ShapeFault Dims
  | [] => pure []
  | axis :: rest => do
      let extent ← must dims[axis.toNat]?
      let extents ← pick dims rest
      pure (extent :: extents)

def transpose (dims : Dims) (shuffle : List Extent) : Strict ShapeFault Dims :=
  if shuffle.length ≠ dims.length then tested (.error (.shuffleRank shuffle.length dims.length))
  else do
    tickOff shuffle dims.length (List.replicate dims.length false) shuffle
    pick dims shuffle

theorem marked_iff (marks : List Bool) (axis : Extent) (rest : List Extent)
    (inside : axis.toNat < marks.length) :
    (∀ other ∈ rest, (marks.set axis.toNat true)[other.toNat]? = some false) ↔
      axis ∉ rest ∧ ∀ other ∈ rest, marks[other.toNat]? = some false := by
  have entry : ∀ other : Extent, (marks.set axis.toNat true)[other.toNat]? = some false ↔
      axis ≠ other ∧ marks[other.toNat]? = some false := by
    intro other
    by_cases same : axis = other
    · subst same
      simp [inside]
    · have apart : axis.toNat ≠ other.toNat := fun equal => same (UInt64.toNat_inj.mp equal)
      simp [List.getElem?_set_ne apart, same]
  simp only [entry]
  exact ⟨fun all => ⟨fun member => (all axis member).1 rfl, fun other member => (all other member).2⟩,
    fun ⟨fresh, all⟩ other member => ⟨fun same => fresh (same ▸ member), all other member⟩⟩

-- Axes that are not on the list of marks yet, none of them twice.
def unticked (marks : List Bool) (axes : List Extent) : Bool :=
  distinctAxes marks.length axes && axes.all fun axis => marks[axis.toNat]? == some false

theorem unticked_iff (marks : List Bool) (axes : List Extent) : unticked marks axes = true ↔
    axes.Nodup ∧ ∀ axis ∈ axes, marks[axis.toNat]? = some false := by
  rw [unticked, Bool.and_eq_true, distinct_axes_iff, List.all_eq_true]
  simp only [beq_iff_eq]
  refine and_congr_left fun clear => and_iff_right_iff_imp.mpr fun _ axis member => ?_
  exact (List.getElem?_eq_some_iff.mp (clear axis member)).1

theorem unticked_step (marks : List Bool) (axis : Extent) (rest : List Extent)
    (read : marks[axis.toNat]? = some false) :
    unticked (marks.set axis.toNat true) rest = unticked marks (axis :: rest) := by
  have inside := (List.getElem?_eq_some_iff.mp read).1
  rw [Bool.eq_iff_iff, unticked_iff, unticked_iff, marked_iff marks axis rest inside, List.nodup_cons]
  simp only [List.forall_mem_cons, read, true_and]
  exact ⟨fun ⟨apart, fresh, clear⟩ => ⟨⟨fresh, apart⟩, clear⟩,
    fun ⟨⟨fresh, apart⟩, clear⟩ => ⟨apart, fresh, clear⟩⟩

theorem tick_off_refines (shuffle : List Extent) (marks : List Bool) (axes : List Extent) :
    tickOff shuffle marks.length marks axes =
      tested (require (unticked marks axes = true) (.notPermutation shuffle)) := by
  induction axes generalizing marks with
  | nil => rfl
  | cons axis rest ih =>
      rw [tickOff]
      by_cases outside : marks.length ≤ axis.toNat
      · have unread : marks[axis.toNat]? ≠ some false := by simp [List.getElem?_eq_none outside]
        have stale : ¬ unticked marks (axis :: rest) = true := fun fresh =>
          unread (((unticked_iff _ _).mp fresh).2 axis List.mem_cons_self)
        rw [if_pos outside, require, if_neg stale]
      · have inside := Nat.lt_of_not_le outside
        have read : marks[axis.toNat]? = some marks[axis.toNat] := List.getElem?_eq_getElem inside
        rw [if_neg outside, must_step read]
        cases met : marks[axis.toNat] with
        | true =>
            rw [met] at read
            have stale : ¬ unticked marks (axis :: rest) = true := fun fresh => by
              have clear := ((unticked_iff _ _).mp fresh).2 axis List.mem_cons_self
              rw [read] at clear
              cases clear
            rw [if_pos rfl, require, if_neg stale]
        | false =>
            rw [met] at read
            have placed : put? marks axis.toNat true = some (marks.set axis.toNat true) := if_pos inside
            have later := ih (marks.set axis.toNat true)
            rw [List.length_set, unticked_step marks axis rest read] at later
            rw [if_neg Bool.false_ne_true, must_step placed, later]

theorem pick_refines (dims : Dims) (axes : List Extent)
    (inside : ∀ axis ∈ axes, axis.toNat < dims.length) :
    pick dims axes = tested (.ok (axes.map fun axis => dims.getD axis.toNat 0)) := by
  induction axes with
  | nil => rfl
  | cons axis rest ih =>
      obtain ⟨head, later⟩ := List.forall_mem_cons.mp inside
      have read : dims[axis.toNat]? = some (dims.getD axis.toNat 0) := by
        rw [List.getD_eq_getElem?_getD, List.getElem?_eq_getElem head]
        rfl
      rw [pick, must_step read, ih later]
      rfl

theorem transpose_refines (dims : Dims) (shuffle : List Extent) :
    transpose dims shuffle = tested (dims.transpose shuffle) := by
  unfold transpose Dims.transpose
  by_cases count : shuffle.length ≠ dims.length
  · rw [if_pos count, if_pos count]
  have ticked := tick_off_refines shuffle (List.replicate dims.length false) shuffle
  have fresh : unticked (List.replicate dims.length false) shuffle =
      distinctAxes dims.length shuffle := by
    rw [Bool.eq_iff_iff, unticked_iff, distinct_axes_iff, and_comm]
    simp [List.getElem?_replicate]
  rw [List.length_replicate, fresh] at ticked
  rw [if_neg count, if_neg count, ticked]
  by_cases distinct : distinctAxes dims.length shuffle = true
  · rw [if_pos distinct, require, if_pos distinct, tested_step rfl]
    exact pick_refines dims shuffle ((distinct_axes_iff _ _).mp distinct).1
  · rw [if_neg distinct, require, if_neg distinct]
    rfl

def gather (data indices : Dims) : Strict ShapeFault Dims :=
  if data.isEmpty then tested (.error .gatheredScalar)
  else do
    let row ← must (from? data 1)
    pure (indices ++ row)

theorem gather_refines (data indices : Dims) : gather data indices = tested (data.gather indices) := by
  cases data with
  | nil => rfl
  | cons count row => rfl

end Strict

end TensorGraph
