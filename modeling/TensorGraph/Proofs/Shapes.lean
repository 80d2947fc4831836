import TensorGraph.Operator.Check
import TensorGraph.Proofs.Success

set_option autoImplicit false

namespace TensorGraph

theorem extent_sum_iff (a b sum : Extent) :
    Extent.add? a b = some sum ↔ sum.toNat = a.toNat + b.toNat := by
  unfold Extent.add?
  by_cases fits : a.toNat + b.toNat < UInt64.size
  · rw [if_pos fits, Option.some.injEq, ← UInt64.toNat_inj, UInt64.toNat_add, Nat.mod_eq_of_lt fits]
    exact eq_comm
  · have below := sum.toNat_lt
    rw [if_neg fits]
    exact iff_of_false nofun fun same => fits (same ▸ below)

theorem extent_sum_below (a b bound : Extent) (below : a.toNat + b.toNat ≤ bound.toNat) :
    (a + b).toNat = a.toNat + b.toNat := by
  rw [UInt64.toNat_add]
  exact Nat.mod_eq_of_lt (Nat.lt_of_le_of_lt below bound.toNat_lt)

theorem extent_overflow (a b : Extent) (overflows : Extent.add? a b = none) :
    UInt64.size ≤ a.toNat + b.toNat := by
  refine Nat.le_of_not_lt fun fits => ?_
  rw [Extent.add?, if_pos fits] at overflows
  cases overflows

theorem extent_product_iff (a b product : Extent) :
    Extent.mul? a b = some product ↔ product.toNat = a.toNat * b.toNat := by
  unfold Extent.mul?
  by_cases fits : a.toNat * b.toNat < UInt64.size
  · rw [if_pos fits, Option.some.injEq, ← UInt64.toNat_inj, UInt64.toNat_mul, Nat.mod_eq_of_lt fits]
    exact eq_comm
  · have below := product.toNat_lt
    rw [if_neg fits]
    exact iff_of_false nofun fun same => fits (same ▸ below)

theorem extent_below (larger : Extent) (count : Nat) (below : count ≤ larger.toNat) :
    ∃ extent : Extent, extent.toNat = count :=
  ⟨UInt64.ofNat count, Nat.mod_eq_of_lt (Nat.lt_of_le_of_lt below larger.toNat_lt)⟩

def Images.dims (images : Images) : Dims := [images.count, images.height, images.width, images.channels]

theorem images_iff (dims : Dims) (images : Images) :
    Images.ofDims dims = .ok images ↔ dims = images.dims := by
  unfold Images.ofDims
  split
  · constructor
    · rintro ⟨⟩
      rfl
    · rintro ⟨⟩
      rfl
  · rename_i other
    refine iff_of_false nofun fun same => ?_
    exact other images.count images.height images.width images.channels same

-- Where a window can slide: it is not empty, it moves, it is not larger than the images, and padding
-- them leaves extents of at most 64 bits.
structure Window.Slides (window : Window) (height width : Extent) : Prop where
  kernel : window.kernel ≠ 0
  stride : window.stride ≠ 0
  tall : window.kernel ≤ height
  wide : window.kernel ≤ width
  paddedHeight : window.pad.toNat * 2 + height.toNat < UInt64.size
  paddedWidth : window.pad.toNat * 2 + width.toNat < UInt64.size

-- The extent that is left of a padded extent.
def Window.span (window : Window) (extent : Extent) : Extent :=
  window.positions (window.pad * 2 + extent)

theorem padded_iff (window : Window) (extent total : Extent) : window.padded extent = .ok total ↔
    window.pad.toNat * 2 + extent.toNat < UInt64.size ∧ total = window.pad * 2 + extent := by
  have two : UInt64.toNat 2 = 2 := rfl
  unfold Window.padded Extent.mul?
  by_cases doubled : window.pad.toNat * UInt64.toNat 2 < UInt64.size
  · have double : (window.pad * 2).toNat = window.pad.toNat * 2 := by
      rw [UInt64.toNat_mul, Nat.mod_eq_of_lt doubled, two]
    rw [if_pos doubled, Option.bind_some, Extent.add?, double]
    by_cases fits : window.pad.toNat * 2 + extent.toNat < UInt64.size
    · simp [fits, eq_comm]
    · simp [fits]
  · rw [if_neg doubled, Option.bind_none]
    rw [two] at doubled
    exact iff_of_false nofun fun fits => doubled (Nat.lt_of_le_of_lt (Nat.le_add_right _ _) fits.1)

theorem padded_total (window : Window) (extent : Extent)
    (fits : window.pad.toNat * 2 + extent.toNat < UInt64.size) :
    (window.pad * 2 + extent).toNat = window.pad.toNat * 2 + extent.toNat := by
  have two : UInt64.toNat 2 = 2 := rfl
  have doubled : window.pad.toNat * 2 < UInt64.size := Nat.lt_of_le_of_lt (Nat.le_add_right _ _) fits
  rw [UInt64.toNat_add, UInt64.toNat_mul, two, Nat.mod_eq_of_lt doubled, Nat.mod_eq_of_lt fits]

theorem unpadded_fault (window : Window) (extent : Extent) (fault : ShapeFault)
    (failed : window.padded extent = .error fault) :
      ¬ window.pad.toNat * 2 + extent.toNat < UInt64.size := by
  intro fits
  rw [(padded_iff window extent _).mpr ⟨fits, rfl⟩] at failed
  cases failed

-- A window that is not empty leaves room for one more position.
theorem positions_total (window : Window) (total : Extent) (kernel : window.kernel ≠ 0)
    (covered : window.kernel.toNat ≤ total.toNat) : (window.positions total).toNat =
      (total.toNat - window.kernel.toNat) / window.stride.toNat + 1 := by
  have positive : 0 < window.kernel.toNat :=
    Nat.pos_of_ne_zero fun none => kernel (UInt64.toNat_inj.mp none)
  have room := UInt64.toNat_sub_of_le total window.kernel (UInt64.le_iff_toNat_le.mpr covered)
  have below : total.toNat < 2 ^ 64 := total.toNat_lt
  have shrinks := Nat.div_le_self (total.toNat - window.kernel.toNat) window.stride.toNat
  have one : UInt64.toNat 1 = 1 := rfl
  rw [Window.positions, UInt64.toNat_add, UInt64.toNat_div, room, one]
  exact Nat.mod_eq_of_lt (by omega)

theorem window_output_iff (window : Window) (images : Images) (extents : Extent × Extent) :
    window.output images = .ok extents ↔
      window.Slides images.height images.width ∧
        extents = (window.span images.height, window.span images.width) := by
  unfold Window.output
  split
  · rename_i empty
    exact iff_of_false nofun fun slides => slides.1.kernel empty
  · rename_i kernel
    split
    · rename_i still
      exact iff_of_false nofun fun slides => slides.1.stride still
    · rename_i stride
      split
      · rename_i small
        refine iff_of_false nofun fun slides => ?_
        exact small.elim (UInt64.not_lt.mpr slides.1.tall) (UInt64.not_lt.mpr slides.1.wide)
      · rename_i large
        split
        · rename_i fault failed
          exact iff_of_false nofun fun slides =>
            unpadded_fault window _ fault failed slides.1.paddedHeight
        · rename_i height paddedHeight
          split
          · rename_i fault failed
            exact iff_of_false nofun fun slides =>
              unpadded_fault window _ fault failed slides.1.paddedWidth
          · rename_i width paddedWidth
            obtain ⟨tall, rfl⟩ := (padded_iff window _ _).mp paddedHeight
            obtain ⟨wide, rfl⟩ := (padded_iff window _ _).mp paddedWidth
            obtain ⟨coveredHeight, coveredWidth⟩ := not_or.mp large
            have slides : window.Slides images.height images.width :=
              ⟨kernel, stride, UInt64.not_lt.mp coveredHeight, UInt64.not_lt.mp coveredWidth, tall, wide⟩
            rw [Except.ok.injEq, eq_comm]
            exact (and_iff_right slides).symm

-- The number of entries, without bound.
def Dims.product : Dims → Nat
  | [] => 1
  | extent :: rest => extent.toNat * product rest

-- Counted from the left, the entries never need more than 64 bits.
def Dims.Countable (dims : Dims) : Prop := ∀ i, Dims.product (dims.take i) < UInt64.size

theorem partial_products_iff (start count : Extent) (dims : Dims) :
    dims.foldlM Extent.mul? start = some count ↔
    (∀ i, start.toNat * Dims.product (dims.take i) < UInt64.size) ∧
      count.toNat = start.toNat * dims.product := by
  induction dims generalizing start with
  | nil =>
      have below : start.toNat < UInt64.size := start.toNat_lt
      simp [Dims.product, below, UInt64.toNat_inj, eq_comm]
  | cons extent rest ih =>
      rw [List.foldlM_cons, Option.bind_eq_bind, Option.bind_eq_some_iff]
      simp only [extent_product_iff, ih, Dims.product, ← Nat.mul_assoc]
      constructor
      · rintro ⟨larger, grown, below, same⟩
        rw [grown] at below same
        refine ⟨fun i => ?_, same⟩
        cases i with
        | zero => exact (Nat.mul_one start.toNat).symm ▸ start.toNat_lt
        | succ i =>
            rw [List.take_succ_cons, Dims.product, ← Nat.mul_assoc]
            exact below i
      · rintro ⟨below, same⟩
        have fits : start.toNat * extent.toNat < UInt64.size := by
          simpa [Dims.product] using below 1
        have grown : (start * extent).toNat = start.toNat * extent.toNat := by
          rw [UInt64.toNat_mul, Nat.mod_eq_of_lt fits]
        refine ⟨start * extent, grown, fun i => ?_, grown ▸ same⟩
        rw [grown, Nat.mul_assoc]
        exact below (i + 1)

theorem count_exact_iff (dims : Dims) (count : Extent) :
    dims.count? = some count ↔ dims.Countable ∧ count.toNat = dims.product := by
  rw [Dims.count?, partial_products_iff, UInt64.toNat_one, Dims.Countable]
  simp only [Nat.one_mul]

theorem countable_iff (dims : Dims) : dims.Countable ↔ ∃ count, dims.count? = some count := by
  refine ⟨fun countable => ?_, fun ⟨count, counted⟩ => ((count_exact_iff dims count).mp counted).1⟩
  have fits : dims.product < UInt64.size := by
    have whole := countable dims.length
    rwa [List.take_length] at whole
  exact ⟨UInt64.ofNat dims.product, (count_exact_iff dims _).mpr ⟨countable, Nat.mod_eq_of_lt fits⟩⟩

theorem count_iff (dims : Dims) (count : Extent) :
    dims.count = .ok count ↔ dims.count? = some count := by
  unfold Dims.count
  cases dims.count? with
  | none => simp
  | some found => simp

theorem flattened_iff (dims : Dims) (flat : Extent × Extent) : dims.flattened = .ok flat ↔
    ∃ rest, dims = flat.1 :: rest ∧ Dims.count? rest = some flat.2 := by
  cases dims with
  | nil => simp [Dims.flattened]
  | cons batch rest =>
      rw [Dims.flattened, map_ok_iff]
      simp only [count_iff, List.cons.injEq]
      constructor
      · rintro ⟨features, counted, rfl⟩
        exact ⟨rest, ⟨rfl, rfl⟩, counted⟩
      · rintro ⟨_, ⟨rfl, rfl⟩, counted⟩
        exact ⟨flat.2, counted, rfl⟩

-- Shapes of one rank with the same extents on all axes but one.
def Dims.AgreesOff (axis : Nat) (a b : Dims) : Prop :=
  a.length = b.length ∧ ∀ (i : Nat) (x y : Extent), a[i]? = some x → b[i]? = some y → i ≠ axis → x = y

theorem agree_from_iff (position axis : Nat) (a b : Dims) : Dims.agreeFrom position axis a b = true ↔
    ∀ (i : Nat) (x y : Extent), a[i]? = some x → b[i]? = some y → position + i ≠ axis → x = y := by
  induction a generalizing position b with
  | nil => simp [Dims.agreeFrom]
  | cons first restA ih =>
      cases b with
      | nil => simp [Dims.agreeFrom]
      | cons second restB =>
          simp only [Dims.agreeFrom, Bool.and_eq_true, Bool.or_eq_true, decide_eq_true_eq,
            beq_iff_eq, ih]
          constructor
          · rintro ⟨head, later⟩ i x y atA atB apart
            cases i with
            | zero =>
                obtain rfl := Option.some.inj atA
                obtain rfl := Option.some.inj atB
                exact head.resolve_left apart
            | succ i => exact later i x y atA atB (by omega)
          · intro all
            refine ⟨?_, fun i x y atA atB apart => all (i + 1) x y atA atB (by omega)⟩
            by_cases here : position = axis
            · exact .inl here
            · exact .inr (all 0 first second rfl rfl here)

theorem agree_except_iff (axis : Nat) (a b : Dims) :
    a.agreeExcept axis b = true ↔ a.AgreesOff axis b := by
  simp [Dims.agreeExcept, Dims.AgreesOff, agree_from_iff]

theorem agrees_off_comm (axis : Nat) (a b : Dims) : a.AgreesOff axis b ↔ b.AgreesOff axis a := by
  have turn : ∀ a b : Dims, a.AgreesOff axis b → b.AgreesOff axis a := fun a b agrees =>
    ⟨agrees.1.symm, fun i x y atB atA apart => (agrees.2 i y x atA atB apart).symm⟩
  exact ⟨turn a b, turn b a⟩

-- The extent of a stack of tensors on the axis along which they are stacked.
def Dims.stackedOn (axis : Nat) : List Dims → Nat
  | [] => 0
  | dims :: rest => (dims.getD axis 0).toNat + stackedOn axis rest

theorem stacked_extent_iff (first : Dims) (axis : Extent) (position : Nat) (total sum : Extent)
    (shapes : List Dims) :
    Dims.stackedExtent first axis position total shapes = .ok sum ↔
      (∀ dims ∈ shapes, first.AgreesOff axis.toNat dims) ∧
        sum.toNat = total.toNat + Dims.stackedOn axis.toNat shapes := by
  induction shapes generalizing position total with
  | nil => simp [Dims.stackedExtent, Dims.stackedOn, UInt64.toNat_inj, eq_comm]
  | cons dims rest ih =>
      rw [Dims.stackedExtent, List.forall_mem_cons, ← agree_except_iff]
      by_cases agrees : first.agreeExcept axis.toNat dims = true
      · rw [if_pos agrees]
        cases added : total.add? (dims.getD axis.toNat 0) with
        | none =>
            refine iff_of_false nofun fun ⟨_, same⟩ => ?_
            have overflows := extent_overflow _ _ added
            have below : sum.toNat < UInt64.size := sum.toNat_lt
            simp only [Dims.stackedOn] at same
            omega
        | some larger =>
            have grown := (extent_sum_iff _ _ _).mp added
            simp only [ih, grown, agrees, true_and, Dims.stackedOn, Nat.add_assoc]
      · rw [if_neg agrees]
        exact iff_of_false nofun fun ⟨all, _⟩ => agrees all.1

theorem concat_iff (axis : Extent) (first : Dims) (rest : List Dims) (result : Dims) :
    Dims.concat axis (first :: rest) = .ok result ↔ axis.toNat < first.length ∧
      (∀ dims ∈ rest, first.AgreesOff axis.toNat dims) ∧
      ∃ total : Extent, total.toNat = Dims.stackedOn axis.toNat (first :: rest) ∧
        result = first.set axis.toNat total := by
  have reflexive : first.AgreesOff axis.toNat first := by
    refine ⟨rfl, fun i x y atX atY _ => ?_⟩
    rw [atX] at atY
    exact Option.some.inj atY
  simp only [Dims.concat]
  by_cases inside : axis.toNat < first.length
  · rw [if_neg (Nat.not_le_of_lt inside), map_ok_iff]
    simp only [stacked_extent_iff, List.forall_mem_cons, reflexive, true_and, UInt64.toNat_zero,
      Nat.zero_add, inside]
    constructor
    · rintro ⟨total, ⟨agree, same⟩, rfl⟩
      exact ⟨agree, total, same, rfl⟩
    · rintro ⟨agree, total, same, rfl⟩
      exact ⟨total, ⟨agree, same⟩, rfl⟩
  · rw [if_pos (Nat.le_of_not_lt inside)]
    exact iff_of_false nofun fun fits => inside fits.1

theorem distinct_axes_iff (rank : Nat) (axes : List Extent) : distinctAxes rank axes = true ↔
    (∀ axis ∈ axes, axis.toNat < rank) ∧ axes.Nodup := by
  induction axes with
  | nil => simp [distinctAxes]
  | cons axis rest ih =>
      simp only [distinctAxes, Bool.and_eq_true, ih, List.forall_mem_cons, List.nodup_cons,
        decide_eq_true_eq]
      simp only [Bool.not_eq_true', List.contains_eq_mem, decide_eq_false_iff_not]
      exact ⟨fun ⟨⟨head, fresh⟩, rest, apart⟩ => ⟨⟨head, rest⟩, fresh, apart⟩,
        fun ⟨⟨head, rest⟩, fresh, apart⟩ => ⟨⟨head, fresh⟩, rest, apart⟩⟩

-- Every axis of the rank is named once, so the entries are a permutation of the axes.
structure Dims.ShuffledBy (dims : Dims) (shuffle : List Extent) (result : Dims) : Prop where
  count : shuffle.length = dims.length
  axes : ∀ axis ∈ shuffle, axis.toNat < dims.length
  apart : shuffle.Nodup
  moved : result = shuffle.map fun axis => dims.getD axis.toNat 0

theorem transpose_iff (dims : Dims) (shuffle : List Extent) (result : Dims) :
    dims.transpose shuffle = .ok result ↔ dims.ShuffledBy shuffle result := by
  unfold Dims.transpose
  by_cases count : shuffle.length = dims.length
  · rw [if_neg (not_not_intro count)]
    by_cases distinct : distinctAxes dims.length shuffle = true
    · obtain ⟨axes, apart⟩ := (distinct_axes_iff _ _).mp distinct
      rw [if_pos distinct, Except.ok.injEq]
      exact ⟨fun same => ⟨count, axes, apart, same.symm⟩, fun shuffled => shuffled.moved.symm⟩
    · rw [if_neg distinct]
      exact iff_of_false nofun fun shuffled =>
        distinct ((distinct_axes_iff _ _).mpr ⟨shuffled.axes, shuffled.apart⟩)
  · rw [if_pos count]
    exact iff_of_false nofun fun shuffled => count shuffled.count

-- Ranges of the given starts and lengths, none of them empty, each inside its extent.
inductive Dims.Within : List Extent → Dims → Dims → Prop where
  | nil : Within [] [] []
  | cons (start length extent : Extent) (starts lengths extents : List Extent) (filled : length ≠ 0)
      (inside : start.toNat + length.toNat ≤ extent.toNat) (rest : Within starts lengths extents) :
      Within (start :: starts) (length :: lengths) (extent :: extents)

theorem within_counts (starts lengths extents : List Extent)
    (within : Dims.Within starts lengths extents) :
    starts.length = extents.length ∧ lengths.length = extents.length := by
  induction within with
  | nil => exact ⟨rfl, rfl⟩
  | cons start length extent starts lengths extents filled inside rest ih =>
      exact ⟨congrArg Nat.succ ih.1, congrArg Nat.succ ih.2⟩

theorem range_stops_cons (start length : Extent) (starts lengths stops : List Extent) :
    Dims.rangeStops? (start :: starts) (length :: lengths) = some stops ↔
      ∃ stop others, stop.toNat = start.toNat + length.toNat ∧
        Dims.rangeStops? starts lengths = some others ∧
        stops = stop :: others := by
  simp only [Dims.rangeStops?, ← extent_sum_iff]
  cases start.add? length with
  | none => simp
  | some stop =>
      cases Dims.rangeStops? starts lengths with
      | none => simp
      | some others => simp [eq_comm]

theorem within_stops (starts lengths extents : List Extent)
    (within : Dims.Within starts lengths extents) :
    ∃ stops, Dims.rangeStops? starts lengths = some stops ∧ stops.length = extents.length := by
  induction within with
  | nil => exact ⟨[], rfl, rfl⟩
  | cons start length extent starts lengths extents filled inside rest ih =>
      obtain ⟨stops, ended, count⟩ := ih
      have sum := extent_sum_below start length extent inside
      exact ⟨(start + length) :: stops, (range_stops_cons _ _ _ _ _).mpr ⟨_, stops, sum, ended, rfl⟩,
        congrArg Nat.succ count⟩

theorem range_stops_injective (starts lengths others stops : List Extent)
    (count : starts.length = lengths.length) (otherCount : starts.length = others.length)
    (ended : Dims.rangeStops? starts lengths = some stops)
    (again : Dims.rangeStops? starts others = some stops) : lengths = others := by
  induction starts generalizing lengths others stops with
  | nil => rw [List.length_eq_zero_iff.mp count.symm, List.length_eq_zero_iff.mp otherCount.symm]
  | cons start starts ih =>
      obtain ⟨length, lengths, rfl⟩ := List.exists_cons_of_length_eq_add_one count.symm
      obtain ⟨other, others, rfl⟩ := List.exists_cons_of_length_eq_add_one otherCount.symm
      obtain ⟨stop, rest, sum, restEnded, rfl⟩ := (range_stops_cons _ _ _ _ _).mp ended
      obtain ⟨_, _, otherSum, restAgain, same⟩ := (range_stops_cons _ _ _ _ _).mp again
      obtain ⟨rfl, rfl⟩ := List.cons.inj same
      have sameLength : length = other := UInt64.toNat_inj.mp (by omega)
      rw [sameLength, ih lengths others rest (Nat.succ.inj count)
        (Nat.succ.inj otherCount) restEnded restAgain]

theorem range_entry_iff (start stop extent length : Extent) :
    (start < stop ∧ stop ≤ extent) ∧ stop - start = length ↔
    length ≠ 0 ∧ start.toNat + length.toNat ≤ extent.toNat ∧
      stop.toNat = start.toNat + length.toNat := by
  have zero : length ≠ 0 ↔ length.toNat ≠ 0 := not_congr (UInt64.toNat_inj (b := 0)).symm
  rw [UInt64.lt_iff_toNat_lt, UInt64.le_iff_toNat_le, zero]
  constructor
  · rintro ⟨⟨before, inside⟩, rfl⟩
    rw [UInt64.toNat_sub_of_le stop start (UInt64.le_iff_toNat_le.mpr (Nat.le_of_lt before))]
    omega
  · rintro ⟨filled, inside, sum⟩
    have ordered : start ≤ stop := UInt64.le_iff_toNat_le.mpr (by omega)
    refine ⟨by omega, UInt64.toNat_inj.mp ?_⟩
    rw [UInt64.toNat_sub_of_le stop start ordered]
    omega

theorem range_lengths_iff (axis : Nat) (starts stops : List Extent) (dims lengths : Dims)
    (startCount : starts.length = dims.length) (stopCount : stops.length = dims.length) :
    Dims.rangeLengths axis starts stops dims = .ok lengths ↔
      Dims.Within starts lengths dims ∧ Dims.rangeStops? starts lengths = some stops := by
  induction dims generalizing axis starts stops lengths with
  | nil =>
      obtain rfl := List.length_eq_zero_iff.mp startCount
      obtain rfl := List.length_eq_zero_iff.mp stopCount
      constructor
      · rintro ⟨⟩
        exact ⟨.nil, rfl⟩
      · rintro ⟨⟨⟩, _⟩
        rfl
  | cons extent dims ih =>
      obtain ⟨start, starts, rfl⟩ := List.exists_cons_of_length_eq_add_one startCount
      obtain ⟨stop, stops, rfl⟩ := List.exists_cons_of_length_eq_add_one stopCount
      have later := fun lengths => ih (axis + 1) starts stops lengths (Nat.succ.inj startCount)
        (Nat.succ.inj stopCount)
      rw [Dims.rangeLengths]
      constructor
      · intro measured
        split at measured
        · rename_i bounds
          obtain ⟨rest, restMeasured, rfl⟩ := (map_ok_iff _ _ _).mp measured
          obtain ⟨within, ended⟩ := (later rest).mp restMeasured
          obtain ⟨filled, inside, sum⟩ := (range_entry_iff start stop extent _).mp ⟨bounds, rfl⟩
          exact ⟨.cons _ _ _ _ _ _ filled inside within,
            (range_stops_cons _ _ _ _ _).mpr ⟨stop, stops, sum, ended, rfl⟩⟩
        · cases measured
      · rintro ⟨within, ended⟩
        cases within with
        | cons _ length _ _ rest _ filled inside within =>
            obtain ⟨_, _, sum, restEnded, same⟩ := (range_stops_cons _ _ _ _ _).mp ended
            obtain ⟨rfl, rfl⟩ := List.cons.inj same
            obtain ⟨bounds, rfl⟩ := (range_entry_iff start stop extent length).mpr ⟨filled, inside, sum⟩
            rw [if_pos bounds, (later rest).mpr ⟨within, restEnded⟩]
            rfl

theorem slice_iff (dims lengths : Dims) (starts stops : List Extent) :
    dims.slice starts stops = .ok lengths ↔
    Dims.Within starts lengths dims ∧ Dims.rangeStops? starts lengths = some stops := by
  unfold Dims.slice
  by_cases counts : starts.length = stops.length ∧ starts.length = dims.length
  · obtain ⟨stopCount, startCount⟩ := counts
    rw [if_neg (not_not_intro stopCount), if_neg (not_not_intro startCount)]
    exact range_lengths_iff 0 starts stops dims lengths startCount (stopCount.symm.trans startCount)
  · refine iff_of_false ?_ ?_
    · intro measured
      split at measured
      · cases measured
      · split at measured
        · cases measured
        · exact counts (by omega)
    · rintro ⟨within, ended⟩
      obtain ⟨stops', again, count⟩ := within_stops starts lengths dims within
      rw [ended] at again
      obtain rfl := Option.some.inj again
      have startCount := (within_counts starts lengths dims within).1
      exact counts ⟨startCount.trans count.symm, startCount⟩

theorem gather_iff (data indices result : Dims) : data.gather indices = .ok result ↔
    ∃ count row, data = count :: row ∧ result = indices ++ row := by
  cases data with
  | nil => simp [Dims.gather]
  | cons count row =>
      rw [Dims.gather, Except.ok.injEq]
      constructor
      · rintro rfl
        exact ⟨count, row, rfl, rfl⟩
      · rintro ⟨_, _, ⟨⟩, rfl⟩
        rfl

def Dims.TrimmedTo (dims : Dims) (k : Extent) (result : Dims) : Prop :=
  ∃ outer extent, dims = outer ++ [extent] ∧ k ≤ extent ∧ result = outer ++ [k]

theorem top_k_iff (dims result : Dims) (k : Extent) :
    dims.topK k = .ok result ↔ dims.TrimmedTo k result := by
  unfold Dims.topK
  rcases List.eq_nil_or_concat dims with rfl | ⟨outer, extent, rfl⟩
  · simp [Dims.TrimmedTo]
  · rw [List.concat_eq_append, List.getLast?_concat]
    simp only [List.dropLast_concat]
    by_cases large : extent < k
    · rw [if_pos large]
      refine iff_of_false nofun ?_
      rintro ⟨others, last, same, small, _⟩
      obtain ⟨_, rfl⟩ := List.append_singleton_inj.mp same
      exact UInt64.not_lt.mpr small large
    · rw [if_neg large, Except.ok.injEq]
      constructor
      · rintro rfl
        exact ⟨outer, extent, rfl, UInt64.not_lt.mp large, rfl⟩
      · rintro ⟨others, last, same, _, rfl⟩
        obtain ⟨rfl, _⟩ := List.append_singleton_inj.mp same
        rfl

end TensorGraph
