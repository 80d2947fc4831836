import Mathlib.Data.List.Nodup
import TensorGraph.Export.Drawing
import TensorGraph.Proofs.Verification

set_option autoImplicit false

namespace TensorGraph

-- The name of a pin that cannot be taken for more than a pin in the line of an arrow. `w` is the western
-- side.
structure PlainPin (pin : String) : Prop where
  spelled : pin.toList.all Char.isAlphanum = true
  compassFree : pin ≠ "w"

structure Arrow.IsPlain (arrow : Arrow) : Prop where
  pin : PlainPin arrow.pin
  head : ∀ producer input, arrow.head = .pin producer input → PlainPin input

theorem PlainPin.letter {pin : String} (plain : PlainPin pin) (c : Char) (inside : c ∈ pin.toList) :
    c.isAlphanum = true := List.all_eq_true.mp plain.spelled c inside

theorem PlainPin.unspaced {pin : String} (plain : PlainPin pin) : ' ' ∉ pin.toList :=
  fun inside => absurd (plain.letter ' ' inside) (by decide)

def Arrow.mark (arrow : Arrow) : String := if arrow.isTwoWay then " [dir=\"both\"]" else ""

theorem number_text_digit (n : Nat) (c : Char) (member : c ∈ (toString n).toList) :
    c.isDigit = true := by
  rw [Nat.toString_eq_ofList_toDigits, String.toList_ofList] at member
  exact Nat.isDigit_of_mem_toDigits (by decide) (by decide) member

theorem number_text_injective (a b : Nat) (same : toString a = toString b) : a = b := by
  rw [Nat.toString_eq_ofList_toDigits, Nat.toString_eq_ofList_toDigits, String.ofList_inj] at same
  have numbers := congrArg (fun text => Nat.ofDigitChars 10 text 0) same
  simpa only [Nat.ofDigitChars_ten_toDigits] using numbers

-- A text is cut at the first place of a character, which is where the other part starts unless it is
-- empty.
theorem text_cut {α : Type} [DecidableEq α] (c : α) (a x : List α) (outside : c ∉ a)
    (stops : ∀ first ∈ x.head?, first = c) :
    (a ++ x).takeWhile (· != c) = a ∧ (a ++ x).dropWhile (· != c) = x := by
  have inside : ∀ other ∈ a, (other != c) = true := fun other member =>
    bne_iff_ne.mpr fun same => outside (same ▸ member)
  rw [List.takeWhile_append_of_pos inside, List.dropWhile_append_of_pos inside]
  cases x with
  | nil => simp
  | cons first more =>
      obtain rfl : first = c := stops first rfl
      simp

theorem cut_injective (c : Char) (a b x y : String) (outsideA : c ∉ a.toList) (outsideB : c ∉ b.toList)
    (stopsX : ∀ first ∈ x.toList.head?, first = c) (stopsY : ∀ first ∈ y.toList.head?, first = c)
    (same : a ++ x = b ++ y) : a = b ∧ x = y := by
  have front : a.toList = b.toList := by
    rw [← (text_cut c a.toList x.toList outsideA stopsX).1, ← String.toList_append, same,
      String.toList_append, (text_cut c b.toList y.toList outsideB stopsY).1]
  obtain rfl := String.toList_inj.mp front
  exact ⟨rfl, (String.append_right_inj a).mp same⟩

theorem numbered_char (mark : String) (plain : ∀ c ∈ mark.toList, c ≠ ' ' ∧ c ≠ ':') (n : Nat) (c : Char)
    (member : c ∈ (mark ++ toString n ++ "\"").toList) : c ≠ ' ' ∧ c ≠ ':' := by
  simp only [String.toList_append, List.mem_append] at member
  rcases member with (first | number) | last
  · exact plain c first
  · have digit := number_text_digit n c number
    constructor
    · rintro rfl
      cases digit
    · rintro rfl
      cases digit
  · have quote : ∀ c ∈ "\"".toList, c ≠ ' ' ∧ c ≠ ':' := by simp
    exact quote c last

theorem numbered_injective (mark : String) (n m : Nat)
    (same : mark ++ toString n ++ "\"" = mark ++ toString m ++ "\"") :
    n = m := by
  rw [String.append_left_inj, String.append_right_inj] at same
  exact number_text_injective n m same

theorem vertex_name_char (producer : Producer) (c : Char) (member : c ∈ (vertexName producer).toList) :
    c ≠ ' ' ∧ c ≠ ':' := by
  cases producer with
  | var id => exact numbered_char "\"v" (by simp) id.index c member
  | node id => exact numbered_char "\"n" (by simp) id.index c member

theorem box_name_char (id : FunctionId) (c : Char) (member : c ∈ (boxName id).toList) :
    c ≠ ' ' ∧ c ≠ ':' :=
  numbered_char "\"f" (by simp) id.index c member

theorem vertex_name_injective (a b : Producer) (same : vertexName a = vertexName b) : a = b := by
  cases a with
  | var a =>
      cases b with
      | var b => exact congrArg (fun n => Producer.var ⟨n⟩) (numbered_injective _ _ _ same)
      | node b => simp [vertexName, ← String.toList_inj] at same
  | node a =>
      cases b with
      | var b => simp [vertexName, ← String.toList_inj] at same
      | node b => exact congrArg (fun n => Producer.node ⟨n⟩) (numbered_injective _ _ _ same)

theorem box_name_injective (a b : FunctionId) (same : boxName a = boxName b) : a = b :=
  congrArg FunctionId.mk (numbered_injective _ _ _ same)

theorem box_unlike_vertex (id : FunctionId) (producer : Producer) :
    boxName id ≠ vertexName producer := by
  cases producer with
  | var v => simp [boxName, vertexName, ← String.toList_inj]
  | node n => simp [boxName, vertexName, ← String.toList_inj]

-- What stands before the colon of a head, and what from the colon on.
def ArrowHead.stem : ArrowHead → String
  | .pin producer _ => vertexName producer
  | .west producer => vertexName producer
  | .box function => boxName function

def ArrowHead.port : ArrowHead → String
  | .pin _ input => ":" ++ input
  | .west _ => ":w"
  | .box _ => ""

theorem head_parts (head : ArrowHead) : head.text = head.stem ++ head.port := by
  cases head with
  | pin producer input => exact String.append_assoc ..
  | west producer => rfl
  | box function => exact String.append_empty.symm

theorem head_text_injective (a b : ArrowHead)
    (plainA : ∀ producer input, a = .pin producer input → PlainPin input)
    (plainB : ∀ producer input, b = .pin producer input → PlainPin input)
    (same : a.text = b.text) : a = b := by
  have uncut : ∀ head : ArrowHead, ':' ∉ head.stem.toList := by
    intro head inside
    cases head with
    | pin producer _ => exact (vertex_name_char producer ':' inside).2 rfl
    | west producer => exact (vertex_name_char producer ':' inside).2 rfl
    | box function => exact (box_name_char function ':' inside).2 rfl
  have stops : ∀ head : ArrowHead, ∀ first ∈ head.port.toList.head?, first = ':' := by
    intro head
    cases head with
    | pin _ input => simp [ArrowHead.port]
    | west _ => simp [ArrowHead.port]
    | box _ => simp [ArrowHead.port]
  rw [head_parts, head_parts] at same
  obtain ⟨stems, ports⟩ := cut_injective ':' _ _ _ _ (uncut a) (uncut b) (stops a) (stops b) same
  have western : ∀ input, ":" ++ input = ":w" → input = "w" := fun input compass =>
    (String.append_right_inj ":").mp (compass.trans (show ":w" = ":" ++ "w" from rfl))
  cases a with
  | pin producer input =>
      cases b with
      | pin other output =>
          obtain rfl := vertex_name_injective _ _ stems
          obtain rfl := (String.append_right_inj ":").mp ports
          rfl
      | west other => exact absurd (western input ports) (plainA producer input rfl).compassFree
      | box function => exact absurd stems.symm (box_unlike_vertex function producer)
  | west producer =>
      cases b with
      | pin other output =>
          exact absurd (western output ports.symm) (plainB other output rfl).compassFree
      | west other => exact congrArg ArrowHead.west (vertex_name_injective _ _ stems)
      | box function => exact absurd stems.symm (box_unlike_vertex function producer)
  | box function =>
      cases b with
      | pin other output => exact absurd stems (box_unlike_vertex function other)
      | west other => exact absurd stems (box_unlike_vertex function other)
      | box other => exact congrArg ArrowHead.box (box_name_injective _ _ stems)

theorem head_text_unspaced (head : ArrowHead)
    (plain : ∀ producer input, head = .pin producer input → PlainPin input) :
    ' ' ∉ head.text.toList := by
  cases head with
  | pin producer input =>
      have bare := (plain producer input rfl).unspaced
      have named : ' ' ∉ (vertexName producer).toList :=
        fun inside => (vertex_name_char producer ' ' inside).1 rfl
      simp [ArrowHead.text, bare, named]
  | west producer =>
      have named : ' ' ∉ (vertexName producer).toList :=
        fun inside => (vertex_name_char producer ' ' inside).1 rfl
      simp [ArrowHead.text, named]
  | box function => exact fun inside => (box_name_char function ' ' inside).1 rfl

theorem mark_spaced (arrow : Arrow) : ∀ first ∈ arrow.mark.toList.head?, first = ' ' := by
  unfold Arrow.mark
  cases arrow.isTwoWay with
  | true => simp
  | false => simp

-- The first space of a line ends its tail, the second follows the sign of the arrow, and a third comes
-- with the mark.
theorem arrow_text_injective (a b : Arrow) (plainA : a.IsPlain) (plainB : b.IsPlain)
    (same : a.text = b.text) : a = b := by
  have parts : ∀ arrow : Arrow,
      arrow.text = (vertexName arrow.tail ++ (":" ++ arrow.pin)) ++
        (" -> " ++ (arrow.head.text ++ arrow.mark)) := by
    intro arrow
    simp only [Arrow.text, Arrow.mark, String.append_assoc]
  have unspaced : ∀ arrow : Arrow, arrow.IsPlain →
      ' ' ∉ (vertexName arrow.tail ++ (":" ++ arrow.pin)).toList := by
    intro arrow plain
    have named : ' ' ∉ (vertexName arrow.tail).toList :=
      fun inside => (vertex_name_char _ ' ' inside).1 rfl
    simp [named, plain.pin.unspaced]
  rw [parts, parts] at same
  obtain ⟨tails, heads⟩ :=
    cut_injective ' ' _ _ _ _ (unspaced a plainA) (unspaced b plainB) (by simp) (by simp) same
  obtain ⟨producers, pins⟩ :=
    cut_injective ':' _ _ _ _ (fun inside => (vertex_name_char _ ':' inside).2 rfl)
    (fun inside => (vertex_name_char _ ':' inside).2 rfl) (by simp) (by simp) tails
  obtain ⟨ends, marks⟩ :=
    cut_injective ' ' _ _ _ _ (head_text_unspaced _ plainA.head) (head_text_unspaced _ plainB.head)
    (mark_spaced a) (mark_spaced b) ((String.append_right_inj " -> ").mp heads)
  have ways : a.isTwoWay = b.isTwoWay := by
    unfold Arrow.mark at marks
    cases first : a.isTwoWay <;> cases second : b.isTwoWay <;> simp [first, second] at marks ⊢
  obtain ⟨tail, pin, head, isTwoWay⟩ := a
  obtain rfl := vertex_name_injective _ _ producers
  obtain rfl := (String.append_right_inj ":").mp pins
  obtain rfl := head_text_injective _ _ plainA.head plainB.head ends
  obtain rfl := ways
  rfl

instance (pin : String) : Decidable (PlainPin pin) :=
  decidable_of_iff (pin.toList.all Char.isAlphanum = true ∧ pin ≠ "w")
    ⟨fun plain => ⟨plain.1, plain.2⟩, fun plain => ⟨plain.1, plain.2⟩⟩

theorem variable_pin_plain : PlainPin Variable.outputName := by decide

section Pins

variable (operator : Operator)

theorem input_pins_plain : ∀ pin ∈ operator.inputPins.getD [], PlainPin pin := by
  cases operator <;> (simp only [Operator.inputPins]; decide)

theorem output_pins_known :
    operator.outputPins = ["Result"] ∨ operator.outputPins = ["CE"] ∨
      operator.outputPins = ["Values", "Indices"] := by
  cases operator with
  | topK count => exact .inr (.inr rfl)
  | crossEntropyLoss => exact .inr (.inl rfl)
  | _ => exact .inl rfl

theorem output_pin_known : ∀ pin ∈ operator.outputPins, pin ∈ ["Result", "CE", "Values", "Indices"] := by
  rcases output_pins_known operator with one | loss | best
  · rw [one]
    decide
  · rw [loss]
    decide
  · rw [best]
    decide

theorem input_name_satisfies (holds : String → Prop)
    (named : ∀ pin ∈ operator.inputPins.getD [], holds pin)
    (numbered : ∀ i : Nat, holds ("Input" ++ toString i)) (i : Nat) : holds (operator.inputName i) := by
  unfold Operator.inputName
  split
  · rename_i pin access
    exact named pin (List.mem_of_getElem? access)
  · exact numbered i

theorem output_name_satisfies (holds : String → Prop)
    (named : ∀ pin ∈ ["Result", "CE", "Values", "Indices"], holds pin)
    (numbered : ∀ i : Nat, holds ("Result" ++ toString i)) (i : Nat) :
    holds (operator.outputName i) := by
  unfold Operator.outputName
  split
  · rename_i pin access
    exact named pin (output_pin_known operator pin (List.mem_of_getElem? access))
  · exact numbered i

theorem numbered_pin_plain (word : String) (first : Char) (rest : List Char)
    (spelled : word.toList = first :: rest) (letters : word.toList.all Char.isAlphanum = true)
    (other : first ≠ 'w') (i : Nat) :
    PlainPin (word ++ toString i) := by
  constructor
  · rw [String.toList_append, List.all_append, letters, Bool.true_and]
    refine List.all_eq_true.mpr fun c number => ?_
    rw [Char.isAlphanum, number_text_digit i c number, Bool.or_true]
  · intro same
    have lists := congrArg String.toList same
    rw [String.toList_append, spelled] at lists
    exact other (List.cons.inj lists).1

theorem input_name_plain : ∀ i, PlainPin (operator.inputName i) :=
  input_name_satisfies operator PlainPin (input_pins_plain operator)
    (numbered_pin_plain "Input" 'I' "nput".toList (by decide) (by decide) (by decide))

theorem output_name_plain : ∀ i, PlainPin (operator.outputName i) :=
  output_name_satisfies operator PlainPin (by decide)
    (numbered_pin_plain "Result" 'R' "esult".toList (by decide) (by decide) (by decide))

theorem named_pins_distinct : (operator.inputPins.getD [] ++ operator.outputPins).Nodup := by
  cases operator with
  | topK count => exact (by decide : ["Input", "Values", "Indices"].Nodup)
  | crossEntropyLoss => exact (by decide : ["P", "Labels", "CE"].Nodup)
  | _ =>
      change (Option.getD (Operator.inputPins _) [] ++ ["Result"]).Nodup
      simp only [Operator.inputPins]
      decide

theorem result_row : (List.range operator.resultCount).map operator.outputName =
    operator.outputPins := by
  refine List.ext_getElem (by simp [Operator.resultCount]) fun i _ below => ?_
  simp [Operator.outputName, below]

theorem operand_row (names : List String) (pins : operator.inputPins = some names) :
    (List.range names.length).map operator.inputName = names := by
  refine List.ext_getElem (by simp) fun i _ below => ?_
  simp [Operator.inputName, pins, below]

-- No two pins of a node share a name, be they named or numbered.
theorem pins_distinct (count : Nat) (takes : operator.TakesInputs count) :
    ((List.range count).map operator.inputName ++
      (List.range operator.resultCount).map operator.outputName).Nodup := by
  unfold Operator.TakesInputs Operator.inputCount? at takes
  have named := named_pins_distinct operator
  rw [result_row]
  cases pins : operator.inputPins with
  | some names =>
      simp only [pins, Option.map_some] at takes
      subst takes
      rwa [operand_row operator names pins, ← Option.getD_some (a := names) (b := []), ← pins]
  | none =>
      have numbered : operator.inputName = fun i => "Input" ++ toString i := by
        funext i
        simp [Operator.inputName, pins]
      have result : operator.outputPins = ["Result"] := by
        cases operator with
        | concat axis => rfl
        | _ => simp [Operator.inputPins] at pins
      rw [numbered, result]
      refine List.nodup_append.mpr ⟨?_, by simp, ?_⟩
      · refine List.Nodup.map (fun i j same => ?_) List.nodup_range
        exact number_text_injective i j ((String.append_right_inj "Input").mp same)
      · intro pin listed other last same
        obtain ⟨i, _, rfl⟩ := List.mem_map.mp listed
        rw [List.mem_singleton.mp last, ← String.toList_inj] at same
        simp at same

theorem input_name_injective (count : Nat) (takes : operator.TakesInputs count) (i j : Nat)
    (belowI : i < count)
    (belowJ : j < count) (same : operator.inputName i = operator.inputName j) : i = j := by
  have distinct := (List.nodup_append.mp (pins_distinct operator count takes)).1
  exact List.inj_on_of_nodup_map distinct (List.mem_range.mpr belowI) (List.mem_range.mpr belowJ) same

end Pins

theorem kept_item_iff {α : Type} [DecidableEq α] (items : List α) (item : α) :
    item ∈ withoutRepeats items ↔ item ∈ items := by
  induction items with
  | nil => rfl
  | cons first rest ih =>
      by_cases here : item = first
      · simp [withoutRepeats, here]
      · simp [withoutRepeats, here, ih]

theorem kept_items_distinct {α : Type} [DecidableEq α] (items : List α) :
    (withoutRepeats items).Nodup := by
  induction items with
  | nil => exact List.nodup_nil
  | cons first rest ih => exact List.nodup_cons.mpr ⟨by simp, ih.filter _⟩

theorem distinct_items_kept {α : Type} [DecidableEq α] (items : List α) (distinct : items.Nodup) :
    withoutRepeats items = items := by
  induction items with
  | nil => rfl
  | cons first rest ih =>
      obtain ⟨fresh, later⟩ := List.nodup_cons.mp distinct
      have others : rest.filter (fun other => other ≠ first) = rest := by
        refine List.filter_eq_self.mpr fun other member => decide_eq_true fun same => ?_
        exact fresh (same ▸ member)
      rw [withoutRepeats, ih later, others]

theorem kept_items_map {α β : Type} [DecidableEq α] [DecidableEq β] (change : α → β) (items : List α)
    (apart : ∀ a ∈ items, ∀ b ∈ items, change a = change b → a = b) :
    withoutRepeats (items.map change) = (withoutRepeats items).map change := by
  induction items with
  | nil => rfl
  | cons first rest ih =>
      have later := ih fun a inA b inB =>
        apart a (List.mem_cons_of_mem _ inA) b (List.mem_cons_of_mem _ inB)
      rw [List.map_cons, withoutRepeats, withoutRepeats, later, List.map_cons, List.filter_map]
      refine congrArg (change first :: ·)
        (congrArg (List.map change) (List.filter_congr fun other kept => ?_))
      have listed : other ∈ first :: rest := List.mem_cons_of_mem _ ((kept_item_iff rest other).mp kept)
      refine decide_eq_decide.mpr (not_congr ⟨apart other listed first List.mem_cons_self,
        congrArg change⟩)

theorem lines_of_arrows (drawing : Drawing) (plain : ∀ arrow ∈ drawing.arrows, arrow.IsPlain) :
    drawing.arrowLines = (withoutRepeats drawing.arrows).map Arrow.text :=
  kept_items_map Arrow.text drawing.arrows fun a drawnA b drawnB same =>
    arrow_text_injective a b (plain a drawnA) (plain b drawnB) same

end TensorGraph
