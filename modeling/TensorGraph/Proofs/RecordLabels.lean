import TensorGraph.Network.Overview
import TensorGraph.Proofs.ArrowTexts

set_option autoImplicit false

namespace TensorGraph

-- A character as it is read in a label: on its own, or behind a backslash.
inductive Glyph where
  | bare (c : Char)
  | coded (c : Char)
deriving DecidableEq, Repr

namespace Glyph

def meaning : Glyph → Char
  | bare c => c
  | coded c => if c = 'l' then '\n' else c

-- What the glyph is to the record, unless it is part of a text.
def punctuation? : Glyph → Option Char
  | bare c => if recordPunctuation.contains c then some c else none
  | coded _ => none

-- The glyph stands for the character, and no longer for punctuation of the record.
structure Encodes (glyph : Glyph) (c : Char) : Prop where
  meaning : glyph.meaning = c
  guarded : c ∈ recordPunctuation → glyph = .coded c
  silent : glyph.punctuation? = none

end Glyph

-- A label from the left to the right, unless its last backslash has nothing to code.
def glyphs? : List Char → Option (List Glyph)
  | [] => some []
  | [c] => if c = '\\' then none else some [.bare c]
  | c :: next :: rest =>
      if c = '\\' then (glyphs? rest).map (.coded next :: ·)
      else (glyphs? (next :: rest)).map (.bare c :: ·)

-- A quoted text from behind its first quote on: what comes up to the quote that ends it, and what comes
-- after.
def quotedPart? : List Char → Option (List Char × List Char)
  | [] => none
  | [c] => if c = '"' then some ([], []) else none
  | c :: next :: rest =>
      if c = '"' then some ([], next :: rest)
      else if c = '\\' then (quotedPart? rest).map fun part => (c :: next :: part.1, part.2)
      else (quotedPart? (next :: rest)).map fun part => (c :: part.1, part.2)

def glyphOf (c : Char) : Glyph :=
  if c = '\n' then .coded 'l' else if recordPunctuation.contains c then .coded c else .bare c

section Glyphs

variable (c : Char) (text front inside rest : List Char)

theorem coded_glyph : glyphs? ('\\' :: c :: rest) = (glyphs? rest).map (.coded c :: ·) := by
  rw [glyphs?, if_pos rfl]

theorem bare_glyph (other : c ≠ '\\') : glyphs? (c :: rest) = (glyphs? rest).map (.bare c :: ·) := by
  cases rest with
  | nil => simp only [glyphs?, if_neg other, Option.map_some]
  | cons next rest => rw [glyphs?, if_neg other]

theorem bare_glyphs (plain : ∀ c ∈ front, c ≠ '\\') :
    glyphs? (front ++ rest) = (glyphs? rest).map (front.map .bare ++ ·) := by
  induction front with
  | nil => simp
  | cons c front ih =>
      obtain ⟨other, later⟩ := List.forall_mem_cons.mp plain
      rw [List.cons_append, bare_glyph c _ other, ih later, Option.map_map]
      rfl

theorem char_read : glyphs? (escapedChar c ++ rest) = (glyphs? rest).map (glyphOf c :: ·) := by
  unfold escapedChar glyphOf
  by_cases line : c = '\n'
  · rw [if_pos line, if_pos line]
    exact coded_glyph 'l' rest
  · rw [if_neg line, if_neg line]
    by_cases listed : recordPunctuation.contains c = true
    · rw [if_pos listed, if_pos listed]
      exact coded_glyph c rest
    · rw [if_neg listed, if_neg listed]
      refine bare_glyph c rest fun backslash => listed ?_
      rw [backslash]
      rfl

theorem text_read : glyphs? (text.flatMap escapedChar ++ rest) =
    (glyphs? rest).map (text.map glyphOf ++ ·) := by
  induction text with
  | nil => simp
  | cons c text ih =>
      rw [List.flatMap_cons, List.append_assoc, char_read, ih, Option.map_map]
      rfl

theorem escaped_read : glyphs? (escaped text ++ rest) =
    (glyphs? rest).map (text.map glyphOf ++ [.coded 'l'] ++ ·) := by
  rw [escaped, List.append_assoc, text_read, List.cons_append, List.singleton_append, coded_glyph,
    Option.map_map]
  congr 1
  funext glyphs
  exact List.append_cons ..

theorem escaped_glyphs : glyphs? (escaped text) = some (text.map glyphOf ++ [.coded 'l']) := by
  have read := escaped_read text []
  rwa [List.append_nil, glyphs?, Option.map_some, List.append_nil] at read

theorem glyph_encodes : (glyphOf c).Encodes c := by
  unfold glyphOf
  by_cases line : c = '\n'
  · rw [if_pos line, line]
    exact ⟨rfl, fun listed => absurd listed (by decide), rfl⟩
  · rw [if_neg line]
    by_cases listed : recordPunctuation.contains c = true
    · rw [if_pos listed]
      refine ⟨if_neg fun letter => ?_, fun _ => rfl, rfl⟩
      rw [letter] at listed
      exact absurd listed (by decide)
    · rw [if_neg listed]
      exact ⟨rfl, fun member => absurd (List.contains_iff_mem.mpr member) listed, if_neg listed⟩

theorem glyphs_encode : List.Forall₂ Glyph.Encodes (text.map glyphOf) text :=
  List.forall₂_map_left_iff.mpr (List.forall₂_same.mpr fun c _ => glyph_encodes c)

theorem text_glyphs_mean : (text.map glyphOf ++ [Glyph.coded 'l']).map Glyph.meaning =
    text ++ ['\n'] := by
  have mean : Glyph.meaning ∘ glyphOf = id := funext fun c => (glyph_encodes c).meaning
  rw [List.map_append, List.map_map, mean, List.map_id]
  rfl

theorem text_glyphs_silent : ∀ glyph ∈ text.map glyphOf ++ [Glyph.coded 'l'],
    glyph.punctuation? = none :=
  List.forall_mem_append.mpr ⟨List.forall_mem_map.mpr fun c _ => (glyph_encodes c).silent, by decide⟩

end Glyphs

section Quotes

variable (c : Char) (rest : List Char)

theorem quote_ends : quotedPart? ('"' :: rest) = some ([], rest) := by
  cases rest with
  | nil => rw [quotedPart?, if_pos rfl]
  | cons next rest => rw [quotedPart?, if_pos rfl]

theorem quoted_code : quotedPart? ('\\' :: c :: rest) = (quotedPart? rest).map fun part =>
    ('\\' :: c :: part.1, part.2) := by
  rw [quotedPart?, if_neg (by decide), if_pos rfl]

theorem quoted_bare (other : c ≠ '"') (uncoded : c ≠ '\\') :
    quotedPart? (c :: rest) = (quotedPart? rest).map fun part => (c :: part.1, part.2) := by
  cases rest with
  | nil => simp only [quotedPart?, if_neg other, Option.map_none]
  | cons next rest => rw [quotedPart?, if_neg other, if_neg uncoded]

-- A text stays inside of quotes if a backslash stands before each quote in it, and nothing is behind its
-- last backslash.
def Passes (text : List Char) : Prop :=
  ∀ rest, quotedPart? (text ++ rest) = (quotedPart? rest).map fun part => (text ++ part.1, part.2)

theorem glyphs_pass (inside : List Char) (glyphs : List Glyph) (read : glyphs? inside = some glyphs)
    (unquoted : .bare '"' ∉ glyphs) : Passes inside := by
  intro rest
  induction inside using glyphs?.induct generalizing glyphs with
  | case1 => simp
  | case2 => cases read
  | case3 c uncoded =>
      rw [glyphs?, if_neg uncoded] at read
      obtain rfl := Option.some.inj read
      have other : c ≠ '"' := fun quote => unquoted (by simp [quote])
      rw [List.singleton_append, quoted_bare c _ other uncoded]
      rfl
  | case4 next later ih =>
      rw [coded_glyph] at read
      obtain ⟨others, readLater, rfl⟩ := Option.map_eq_some_iff.mp read
      have passed := ih others readLater fun quote => unquoted (List.mem_cons_of_mem _ quote)
      rw [List.cons_append, List.cons_append, quoted_code, passed, Option.map_map]
      rfl
  | case5 c next later uncoded ih =>
      rw [bare_glyph c _ uncoded] at read
      obtain ⟨others, readLater, rfl⟩ := Option.map_eq_some_iff.mp read
      have other : c ≠ '"' := fun quote => unquoted (by simp [quote])
      have passed := ih others readLater fun quote => unquoted (List.mem_cons_of_mem _ quote)
      rw [List.cons_append, quoted_bare c _ other uncoded, passed, Option.map_map]
      rfl

-- The next quote behind the text is the one that ends it.
def Closed (text : List Char) : Prop := ∀ rest, quotedPart? (text ++ '"' :: rest) = some (text, rest)

theorem passing_closed (text : List Char) (passes : Passes text) : Closed text := by
  intro rest
  rw [passes, quote_ends, Option.map_some, List.append_nil]

end Quotes

-- The punctuation of a row, and of a label, by the number of pins.
def rowFrame (pins : Nat) : List Char :=
  '\x7b' :: (List.intercalate ['|'] (List.replicate pins ['<', '>']) ++ ['\x7d'])

def labelFrame (inputs outputs : Nat) : List Char :=
  '\x7b' :: ((if inputs = 0 then [] else rowFrame inputs ++ ['|']) ++
    '\x7b' :: '\x7d' :: ((if outputs = 0 then [] else '|' :: rowFrame outputs) ++ ['\x7d']))

-- A label up to its text, and from the end of the text on.
def labelFront (inputs : List String) : List Char :=
  '\x7b' :: ((if inputs.isEmpty then [] else pinRow inputs ++ ['|']) ++ ['\x7b'])

def labelBack (outputs : List String) : List Char :=
  '\x7d' :: ((if outputs.isEmpty then [] else '|' :: pinRow outputs) ++ ['\x7d'])

theorem label_parts (inputs outputs : List String) (text : String) :
    recordLabel inputs text outputs = labelFront inputs ++ escaped text.toList ++ labelBack outputs := by
  simp only [recordLabel, labelFront, labelBack, List.cons_append, List.append_assoc, List.nil_append]

def Unpunctuated (pin : String) : Prop := ∀ c ∈ pin.toList, c ∉ recordPunctuation

instance (pin : String) : Decidable (Unpunctuated pin) :=
  List.decidableBAll (fun c => c ∉ recordPunctuation) pin.toList

-- The label is one quoted text. Rows of pins stand around what means the text, and nothing in between is
-- punctuation.
structure LabelHolds (inputs : List String) (text : String) (outputs : List String) : Prop where
  closed : ∀ rest, quotedPart? (recordLabel inputs text outputs ++ '"' :: rest) =
    some (recordLabel inputs text outputs, rest)
  glyphs : ∃ glyphs, glyphs? (recordLabel inputs text outputs) =
      some ((labelFront inputs).map .bare ++ glyphs ++ (labelBack outputs).map .bare) ∧
    glyphs.map Glyph.meaning = text.toList ++ ['\n'] ∧ ∀ glyph ∈ glyphs, glyph.punctuation? = none
  frame : (glyphs? (recordLabel inputs text outputs)).map (List.filterMap Glyph.punctuation?) =
    some (labelFrame inputs.length outputs.length)

theorem filter_intercalate {α : Type} (keeps : α → Bool) (between : List α) (items : List (List α)) :
    (List.intercalate between items).filter keeps =
      List.intercalate (between.filter keeps) (items.map (List.filter keeps)) := by
  induction items with
  | nil => rfl
  | cons item others ih =>
      cases others with
      | nil => simp only [List.map_cons, List.map_nil, List.intercalate_singleton]
      | cons next later =>
          rw [List.map_cons] at ih
          rw [List.intercalate_cons_cons, List.filter_append, List.filter_append, ih, List.map_cons,
            List.map_cons, List.intercalate_cons_cons]

theorem intercalate_each {α : Type} (holds : α → Prop) (between : List α) (items : List (List α))
    (first : ∀ a ∈ between, holds a) (second : ∀ item ∈ items, ∀ a ∈ item, holds a) :
    ∀ a ∈ List.intercalate between items, holds a := by
  induction items with
  | nil => exact List.forall_mem_nil _
  | cons item others ih =>
      obtain ⟨here, later⟩ := List.forall_mem_cons.mp second
      cases others with
      | nil => rwa [List.intercalate_singleton]
      | cons next rest =>
          rw [List.intercalate_cons_cons]
          exact List.forall_mem_append.mpr ⟨List.forall_mem_append.mpr ⟨here, first⟩, ih later⟩

theorem bare_punctuation (chars : List Char) :
    (chars.map .bare).filterMap Glyph.punctuation? = chars.filter recordPunctuation.contains := by
  rw [List.filterMap_map, ← List.filterMap_eq_filter]
  rfl

-- The record may take the character for punctuation, but what stands behind it is read as ever.
def Calm (c : Char) : Prop := c ≠ '\\' ∧ c ≠ '"'

instance : DecidablePred Calm := fun c => inferInstanceAs (Decidable (c ≠ '\\' ∧ c ≠ '"'))

theorem unlisted_calm (c : Char) (unlisted : c ∉ recordPunctuation) : Calm c := by
  constructor
  · rintro rfl
    exact unlisted (by decide)
  · rintro rfl
    exact unlisted (by decide)

section Rows

variable (pins : List String) (plain : ∀ pin ∈ pins, Unpunctuated pin)

include plain

theorem row_frame : (pinRow pins).filter recordPunctuation.contains = rowFrame pins.length := by
  have cell : ∀ pin ∈ pins, (pinCell pin).filter recordPunctuation.contains = ['<', '>'] := by
    intro pin listed
    have unlisted : pin.toList.filter recordPunctuation.contains = [] :=
      List.filter_eq_nil_iff.mpr fun c inside found =>
        plain pin listed c inside (List.contains_iff_mem.mp found)
    rw [pinCell, List.filter_cons_of_pos (by decide), List.filter_append, unlisted,
      List.filter_cons_of_pos (by decide), unlisted]
    rfl
  have cells : (pins.map pinCell).map (List.filter recordPunctuation.contains) =
      List.replicate pins.length ['<', '>'] := by
    rw [List.map_map]
    exact (List.map_congr_left cell).trans List.map_const'
  rw [pinRow, List.filter_cons_of_pos (by decide), List.filter_append, filter_intercalate, cells]
  rfl

theorem row_calm : ∀ c ∈ pinRow pins, Calm c := by
  have calm : ∀ pin ∈ pins, ∀ c ∈ pin.toList, Calm c := fun pin listed c inside =>
    unlisted_calm c (plain pin listed c inside)
  have cells : ∀ item ∈ pins.map pinCell, ∀ c ∈ item, Calm c := by
    refine List.forall_mem_map.mpr fun pin listed => ?_
    refine List.forall_mem_cons.mpr ⟨by decide, List.forall_mem_append.mpr ⟨calm pin listed, ?_⟩⟩
    exact List.forall_mem_cons.mpr ⟨by decide, calm pin listed⟩
  refine List.forall_mem_cons.mpr
    ⟨by decide, List.forall_mem_append.mpr ⟨?_, List.forall_mem_singleton.mpr (by decide)⟩⟩
  exact intercalate_each Calm ['|'] _ (List.forall_mem_singleton.mpr (by decide)) cells

theorem front_calm : ∀ c ∈ labelFront pins, Calm c := by
  refine List.forall_mem_cons.mpr
    ⟨by decide, List.forall_mem_append.mpr ⟨?_, List.forall_mem_singleton.mpr (by decide)⟩⟩
  split
  · exact List.forall_mem_nil _
  · exact List.forall_mem_append.mpr ⟨row_calm pins plain, List.forall_mem_singleton.mpr (by decide)⟩

theorem back_calm : ∀ c ∈ labelBack pins, Calm c := by
  refine List.forall_mem_cons.mpr
    ⟨by decide, List.forall_mem_append.mpr ⟨?_, List.forall_mem_singleton.mpr (by decide)⟩⟩
  split
  · exact List.forall_mem_nil _
  · exact List.forall_mem_cons.mpr ⟨by decide, row_calm pins plain⟩

end Rows

section Labels

variable (inputs outputs : List String) (inputsPlain : ∀ pin ∈ inputs, Unpunctuated pin)
  (outputsPlain : ∀ pin ∈ outputs, Unpunctuated pin) (text : String)

include inputsPlain outputsPlain

theorem label_frame : (labelFront inputs ++ labelBack outputs).filter recordPunctuation.contains =
    labelFrame inputs.length outputs.length := by
  have inputRow := row_frame inputs inputsPlain
  have outputRow := row_frame outputs outputsPlain
  have front : (labelFront inputs).filter recordPunctuation.contains =
      '\x7b' :: ((if inputs.length = 0 then [] else rowFrame inputs.length ++ ['|']) ++ ['\x7b']) := by
    rw [labelFront, List.filter_cons_of_pos (by decide), List.filter_append]
    cases inputs with
    | nil => rfl
    | cons pin others =>
        rw [if_neg (by simp), if_neg (by simp), List.filter_append, inputRow]
        rfl
  have back : (labelBack outputs).filter recordPunctuation.contains =
      '\x7d' :: ((if outputs.length = 0 then [] else '|' :: rowFrame outputs.length) ++ ['\x7d']) := by
    rw [labelBack, List.filter_cons_of_pos (by decide), List.filter_append]
    cases outputs with
    | nil => rfl
    | cons pin others =>
        rw [if_neg (by simp), if_neg (by simp), List.filter_cons_of_pos (by decide), outputRow]
        rfl
  rw [List.filter_append, front, back]
  simp only [labelFrame, List.cons_append, List.append_assoc, List.nil_append]

theorem label_read : glyphs? (recordLabel inputs text outputs) = some ((labelFront inputs).map .bare ++
    (text.toList.map glyphOf ++ [.coded 'l']) ++ (labelBack outputs).map .bare) := by
  have front := bare_glyphs (labelFront inputs) (escaped text.toList ++ labelBack outputs)
    fun c inside =>
    (front_calm inputs inputsPlain c inside).1
  have back := bare_glyphs (labelBack outputs) [] fun c inside =>
    (back_calm outputs outputsPlain c inside).1
  rw [List.append_nil] at back
  rw [label_parts, List.append_assoc, front, escaped_read, back]
  simp only [glyphs?, Option.map_some, List.append_assoc, List.append_nil]

theorem label_holds : LabelHolds inputs text outputs := by
  have read := label_read inputs outputs inputsPlain outputsPlain text
  have silent := text_glyphs_silent text.toList
  refine ⟨passing_closed _ (glyphs_pass _ _ read fun quote => ?_),
    ⟨_, read, text_glyphs_mean text.toList, silent⟩, ?_⟩
  · rcases List.mem_append.mp quote with (upToText | behind)
    · rcases List.mem_append.mp upToText with (front | inside)
      · obtain ⟨c, listed, same⟩ := List.mem_map.mp front
        exact (front_calm inputs inputsPlain c listed).2 (Glyph.bare.inj same)
      · exact absurd (silent _ inside) (by decide)
    · obtain ⟨c, listed, same⟩ := List.mem_map.mp behind
      exact (back_calm outputs outputsPlain c listed).2 (Glyph.bare.inj same)
  · rw [read, Option.map_some, List.filterMap_append, List.filterMap_append, bare_punctuation,
      bare_punctuation, List.filterMap_eq_nil_iff.mpr silent, List.append_nil, ← List.filter_append,
      label_frame inputs outputs inputsPlain outputsPlain]

end Labels

section Pins

variable (operator : Operator)

theorem numbered_pin_unpunctuated (word : String) (plain : Unpunctuated word) (i : Nat) :
    Unpunctuated (word ++ toString i) := by
  intro c inside listed
  rw [String.toList_append, List.mem_append] at inside
  rcases inside with spelled | number
  · exact plain c spelled listed
  · have undigit : recordPunctuation.all (fun c => !c.isDigit) = true := by decide
    have digit := number_text_digit i c number
    exact Bool.false_ne_true ((congrArg not digit).symm.trans (List.all_eq_true.mp undigit c listed))

theorem input_name_unpunctuated : ∀ i, Unpunctuated (operator.inputName i) := by
  refine input_name_satisfies operator Unpunctuated ?_ (numbered_pin_unpunctuated "Input" (by decide))
  cases operator <;> (simp only [Operator.inputPins]; decide)

theorem output_name_unpunctuated : ∀ i, Unpunctuated (operator.outputName i) :=
  output_name_satisfies operator Unpunctuated (by decide)
    (numbered_pin_unpunctuated "Result" (by decide))

end Pins

theorem variable_label_holds (text : String) : LabelHolds [] text [Variable.outputName] :=
  label_holds [] _ (List.forall_mem_nil _) (by decide) text

theorem node_label_holds (operator : Operator) (inputs outputs : Nat) (text : String) :
    LabelHolds ((List.range inputs).map operator.inputName) text
      ((List.range outputs).map operator.outputName) :=
  label_holds _ _ (List.forall_mem_map.mpr fun i _ => input_name_unpunctuated operator i)
    (List.forall_mem_map.mpr fun i _ => output_name_unpunctuated operator i) text

-- The line of a record, up to the quote that its label starts behind.
def recordOpening (producer : Producer) : String := vertexName producer ++ "[\n\tlabel = \""

-- What the line of a record has behind its opening is the label as one quoted text, and more. A box is
-- not a record.
def Vertex.Labelled : Vertex → Prop
  | .record producer inputs text outputs style =>
      LabelHolds inputs text outputs ∧
        ∃ line rest, (Vertex.record producer inputs text outputs style).text.toList =
          (recordOpening producer).toList ++ line ∧
          quotedPart? line = some (recordLabel inputs text outputs, rest)
  | .box _ _ _ => True

theorem record_labelled (producer : Producer) (inputs outputs : List String) (text style : String)
    (holds : LabelHolds inputs text outputs) :
      (Vertex.record producer inputs text outputs style).Labelled := by
  let rest := ("\n\tshape = \"record\"\n\tstyle=\"filled,rounded\"\n\t" ++ style ++
    "\npenwidth = 2];").toList
  have behind : ("\"\n\tshape = \"record\"\n\tstyle=\"filled,rounded\"\n\t" ++ style ++
    "\npenwidth = 2];").toList = '"' :: rest := by
    simp [rest]
  refine ⟨holds, _, rest, ?_, holds.closed rest⟩
  rw [← behind, Vertex.text, recordOpening]
  simp only [String.toList_append, String.toList_ofList, List.append_assoc]

theorem variable_labelled (v : Variable) (types : TypePool) : (v.vertex types).Labelled :=
  record_labelled _ _ _ _ _ (variable_label_holds _)

theorem node_labelled (node : Node) (types : TypePool) : (node.vertex types).Labelled :=
  record_labelled _ _ _ _ _ (node_label_holds _ _ _ _)

theorem drawn_vertex_satisfies (holds : Vertex → Prop) (scope : Scope)
    (ofVariable : ∀ v : Variable, holds (v.vertex scope.types))
    (ofNode : ∀ node : Node, holds (node.vertex scope.types)) :
      ∀ vertex ∈ scope.drawing.vertices, holds vertex := by
  intro vertex drawn
  obtain ⟨producer, _, found⟩ := List.mem_filterMap.mp drawn
  cases producer with
  | var id =>
      obtain ⟨v, _, rfl⟩ := Option.map_eq_some_iff.mp found
      exact ofVariable v
  | node id =>
      obtain ⟨node, _, rfl⟩ := Option.map_eq_some_iff.mp found
      exact ofNode node

theorem overview_vertex_satisfies (holds : Vertex → Prop) (network : Network)
    (ofVariable : ∀ v : Variable, holds (v.vertex network.types))
    (ofFunction : ∀ function : Function, holds function.box) :
    ∀ vertex ∈ network.drawing.vertices, holds vertex :=
  List.forall_mem_append.mpr ⟨List.forall_mem_map.mpr fun v _ => ofVariable v, List.forall_mem_map.mpr
    fun f _ => ofFunction f⟩

theorem drawn_vertex_labelled (scope : Scope) : ∀ vertex ∈ scope.drawing.vertices, vertex.Labelled :=
  drawn_vertex_satisfies Vertex.Labelled scope (fun v => variable_labelled v scope.types) fun node =>
    node_labelled node scope.types

theorem overview_vertex_labelled (network : Network) :
    ∀ vertex ∈ network.drawing.vertices, vertex.Labelled :=
  overview_vertex_satisfies Vertex.Labelled network (fun v => variable_labelled v network.types)
    fun _ => trivial

theorem escaped_meaning (text : List Char) :
    (glyphs? (escaped text)).map (List.map Glyph.meaning) = some (text ++ ['\n']) := by
  rw [escaped_glyphs, Option.map_some, text_glyphs_mean]

theorem escaped_injective : Function.Injective escaped := by
  intro a b same
  have meanings := escaped_meaning a
  rw [same, escaped_meaning b] at meanings
  exact (List.append_left_inj _).mp (Option.some.inj meanings).symm

-- An escaped text has one reading, which gives the text back, and no name or descriptor in a drawing
-- breaks its label.
theorem no_text_breaks_a_label :
    (∀ text, ∃ glyphs, glyphs? (escaped text) = some (glyphs ++ [.coded 'l']) ∧
      List.Forall₂ Glyph.Encodes glyphs text) ∧
      (∀ text, (glyphs? (escaped text)).map (List.map Glyph.meaning) = some (text ++ ['\n'])) ∧
      Function.Injective escaped ∧ (∀ text, LabelHolds [] text [Variable.outputName]) ∧
      (∀ (operator : Operator) (inputs outputs : Nat) (text : String),
        LabelHolds ((List.range inputs).map operator.inputName) text
          ((List.range outputs).map operator.outputName)) ∧
      (∀ scope : Scope, ∀ vertex ∈ scope.drawing.vertices, vertex.Labelled) ∧
      ∀ network : Network, ∀ vertex ∈ network.drawing.vertices, vertex.Labelled := by
  exact ⟨fun text => ⟨_, escaped_glyphs text, glyphs_encode text⟩, escaped_meaning, escaped_injective,
    variable_label_holds, node_label_holds, drawn_vertex_labelled, overview_vertex_labelled⟩

-- A name may open a brace and end in a backslash.
theorem punctuated_name_is_drawn :
    let network := Network.run {} .empty [.createFunction "f",
      .createVariable ⟨.plain .float [4], "x", .external, .none⟩,
      .edit ⟨0⟩ (.addLayer "t" (.activation .tanh (.ofVariable ⟨0⟩))),
      .edit ⟨0⟩ (.rename ⟨0⟩ "\x7b|\"\\")]
    ∃ function node, network.function? ⟨0⟩ = some function ∧ node ∈ function.nodes ∧
      node.name = "\x7b|\"\\" ∧
      node.vertex network.types ∈ (network.scopeOf function).drawing.vertices ∧
        (node.vertex network.types).Labelled ∧
      (glyphs? (escaped node.name.toList)).map (List.map Glyph.meaning) =
        some ['\x7b', '|', '"', '\\', '\n'] := by
  intro network
  let node : Node := ⟨⟨0⟩, "\x7b|\"\\", .activation .tanh, [.ofVariable ⟨0⟩], [⟨0⟩], none⟩
  let function : Function := { id := ⟨0⟩, name := "f", nodes := [node], positions := [(⟨0⟩, 0)] }
  have found : network.function? ⟨0⟩ = some function := by decide +kernel
  have drawn : node.vertex network.types ∈ (network.scopeOf function).drawing.vertices := by
    decide +kernel
  obtain ⟨_, meanings, _, _, _, labelled, _⟩ := no_text_breaks_a_label
  exact ⟨function, node, found, List.mem_singleton_self node, rfl, drawn, labelled _ _ drawn,
    (meanings node.name.toList).trans (by decide)⟩

end TensorGraph
