import TensorGraph.Proofs.RecordLabels

set_option autoImplicit false

namespace TensorGraph

-- What a statement in the text of a drawing says. Names stand in their quotes, and the port of an arrow
-- comes with its colon.
inductive Statement where
  | vertex (name : List Char) (ports : List (List Char)) (label : List Char)
  | arrow (tail pin head port : List Char) (isTwoWay : Bool)
deriving DecidableEq, Repr

-- Where a reader of a drawing is: in a quoted text, behind a backslash in it, in a list of attributes.
structure Mode where
  quoted : Bool := false
  coded : Bool := false
  listed : Bool := false
deriving DecidableEq, Repr

namespace Mode

-- A semicolon ends a statement unless it is quoted or stands among attributes.
def ends (mode : Mode) (c : Char) : Bool := c == ';' && !mode.quoted && !mode.listed

def next (mode : Mode) (c : Char) : Mode :=
  if mode.coded then { mode with coded := false }
  else if mode.quoted then { mode with quoted := c != '"', coded := c == '\\' }
  else { mode with quoted := c == '"', listed := c == '[' || mode.listed && c != ']' }

-- The mode behind a text, unless a statement ends in it.
def run (mode : Mode) : List Char → Option Mode
  | [] => some mode
  | c :: rest => if mode.ends c then none else (mode.next c).run rest

def split (mode : Mode) : List Char → List (List Char)
  | [] => [[]]
  | c :: rest =>
      if mode.ends c then [] :: mode.split rest
      else ((mode.next c).split rest).modifyHead (c :: ·)

end Mode

def inQuotes (text : List Char) : List Char := '"' :: (text ++ ['"'])

-- The ports of a record have their names in angle brackets.
def portNames : List Glyph → List (List Char)
  | [] => []
  | glyph :: rest =>
      if glyph = .bare '<' then (rest.takeWhile (· != .bare '>')).map Glyph.meaning :: portNames rest
      else portNames rest

-- Only a record has ports.
def readPorts? (label style : List Char) : Option (List (List Char)) :=
  if "\n\tshape = \"record\"".toList.isPrefixOf style then (glyphs? label).map portNames else some []

-- The list of attributes of a vertex begins with its label.
def readVertex? (name rest : List Char) : Option Statement :=
  (rest.dropPrefix? "[\n\tlabel = \"".toList).bind fun label =>
    (quotedPart? label).bind fun part => (readPorts? part.1 part.2).map fun ports =>
      .vertex name ports part.1

-- A pin ends at the first space. So does the port, behind which there may be the mark of an arrow that
-- goes both ways.
def readArrow? (tail rest : List Char) : Option Statement :=
  ((rest.dropWhile (· != ' ')).dropPrefix? " -> \"".toList).bind fun head =>
    (quotedPart? head).bind fun part =>
      let arrow := Statement.arrow tail (rest.takeWhile (· != ' ')) (inQuotes part.1)
        (part.2.takeWhile (· != ' '))
      let mark := part.2.dropWhile (· != ' ')
      if mark = [] then some (arrow false)
      else if mark = " [dir=\"both\"]".toList then some (arrow true)
      else none

def readStatement? (text : List Char) : Option Statement :=
  (text.dropPrefix? "\n\"".toList).bind fun name =>
    (quotedPart? name).bind fun part =>
      match part.2 with
      | ':' :: rest => readArrow? (inQuotes part.1) rest
      | rest => readVertex? (inQuotes part.1) rest

-- The statements of a drawing between its opening and the brace that closes it.
def readDrawing? (text : String) : Option (List Statement) :=
  (text.toList.dropPrefix? "digraph DAG \x7b\n\trankdir=TB;".toList).bind fun body =>
    let statements := Mode.split {} body
    if statements.getLast? = some "\n\x7d".toList then statements.dropLast.mapM readStatement? else none

-- The name that arrows refer to a vertex by.
def Vertex.name : Vertex → String
  | record producer _ _ _ _ => vertexName producer
  | box function _ _ => boxName function

def Vertex.pins : Vertex → List String
  | record _ inputs _ outputs _ => inputs ++ outputs
  | box _ _ _ => []

def Vertex.label : Vertex → List Char
  | record _ inputs text outputs _ => recordLabel inputs text outputs
  | box _ name size =>
      ("Function\\lname : " ++ quoted name ++ "\\lnode count : " ++ toString size ++ "\\l").toList

def Vertex.statement (vertex : Vertex) : Statement :=
  .vertex vertex.name.toList (vertex.pins.map String.toList) vertex.label

def Arrow.statement (arrow : Arrow) : Statement :=
  .arrow (vertexName arrow.tail).toList arrow.pin.toList arrow.head.stem.toList arrow.head.port.toList
    arrow.isTwoWay

theorem prefix_dropped (front rest : List Char) : (front ++ rest).dropPrefix? front = some rest :=
  List.dropPrefix?_eq_some_iff.mpr ⟨front, rfl, beq_self_eq_true front⟩

section Runs

variable (listed : Bool)

theorem texts_run (mode : Mode) (first second : List Char) :
    mode.run (first ++ second) = (mode.run first).bind fun after => after.run second := by
  induction first generalizing mode with
  | nil => rfl
  | cons c rest ih =>
      rw [List.cons_append, Mode.run, Mode.run]
      split
      · rfl
      · exact ih _

theorem text_split (mode after : Mode) (text rest : List Char) (passes : mode.run text = some after) :
    mode.split (text ++ rest) = (after.split rest).modifyHead (text ++ ·) := by
  induction text generalizing mode with
  | nil =>
      obtain rfl := Option.some.inj passes
      exact (congrFun List.modifyHead_id _).symm
  | cons c text ih =>
      rw [Mode.run] at passes
      split at passes
      · cases passes
      · rename_i inside
        rw [List.cons_append, Mode.split, if_neg inside, ih _ passes, List.modifyHead_modifyHead]
        rfl

theorem still_run (mode : Mode) (text : List Char)
    (still : ∀ c ∈ text, mode.ends c = false ∧ mode.next c = mode) :
    mode.run text = some mode := by
  induction text with
  | nil => rfl
  | cons c rest ih =>
      obtain ⟨⟨inside, same⟩, later⟩ := List.forall_mem_cons.mp still
      rw [Mode.run, inside, same]
      exact ih later

theorem quoted_step (coded : Bool) (c : Char) (rest : List Char) :
    Mode.run ⟨true, coded, listed⟩ (c :: rest) = (Mode.next ⟨true, coded, listed⟩ c).run rest := by
  rw [Mode.run, if_neg (by simp [Mode.ends])]

-- What is taken for a quoted text is passed through up to its last quote.
theorem quoted_part_run (text inside rest : List Char) (part : quotedPart? text = some (inside, rest)) :
    Mode.run ⟨true, false, listed⟩ (inside ++ ['"']) = some ⟨false, false, listed⟩ := by
  induction text using quotedPart?.induct generalizing inside rest with
  | case1 => cases part
  | case2 =>
      rw [quote_ends] at part
      cases part
      rfl
  | case3 c other =>
      rw [quotedPart?, if_neg other] at part
      cases part
  | case4 next later =>
      rw [quote_ends] at part
      cases part
      rfl
  | case5 next later _ ih =>
      rw [quoted_code] at part
      obtain ⟨⟨front, behind⟩, found, same⟩ := Option.map_eq_some_iff.mp part
      cases same
      have codes : Mode.next ⟨true, false, listed⟩ '\\' = ⟨true, true, listed⟩ := rfl
      rw [List.cons_append, List.cons_append, quoted_step, codes, quoted_step]
      exact ih front behind found
  | case6 c next later other uncoded ih =>
      rw [quoted_bare c _ other uncoded] at part
      obtain ⟨⟨front, behind⟩, found, same⟩ := Option.map_eq_some_iff.mp part
      cases same
      have stays : Mode.next ⟨true, false, listed⟩ c = ⟨true, false, listed⟩ := by
        simp [Mode.next, other, uncoded]
      rw [List.cons_append, quoted_step, stays]
      exact ih front behind found

theorem quotes_run (text : List Char) (closed : Closed text) :
    Mode.run ⟨false, false, listed⟩ (inQuotes text) = some ⟨false, false, listed⟩ := by
  have opened : Mode.run ⟨false, false, listed⟩ (inQuotes text) =
      Mode.run ⟨true, false, listed⟩ (text ++ ['"']) := by
    rw [inQuotes, Mode.run, if_neg (by simp [Mode.ends])]
    cases listed <;> rfl
  rw [opened]
  exact quoted_part_run listed _ text [] (closed [])

end Runs

section Names

theorem calm_passes (text : List Char) (calm : ∀ c ∈ text, Calm c) : Passes text := by
  have read := bare_glyphs text [] fun c inside => (calm c inside).1
  rw [List.append_nil, glyphs?, Option.map_some, List.append_nil] at read
  refine glyphs_pass text _ read fun quote => ?_
  obtain ⟨c, listed, same⟩ := List.mem_map.mp quote
  exact (calm c listed).2 (Glyph.bare.inj same)

theorem passes_append (first second : List Char) (passes : Passes first) (later : Passes second) :
    Passes (first ++ second) := by
  intro rest
  rw [List.append_assoc, passes, later, Option.map_map]
  simp only [Function.comp_def, List.append_assoc]

theorem quoted_passes (name : String) : Passes (quoted name).toList := by
  rw [quoted, String.toList_ofList]
  induction name.toList with
  | nil => exact calm_passes [] (List.forall_mem_nil _)
  | cons c rest ih =>
      rw [List.flatMap_cons]
      refine passes_append _ _ ?_ ih
      unfold quotedChar
      split
      · exact glyphs_pass _ [.coded c] (coded_glyph c []) (by simp)
      · rename_i other
        exact calm_passes [c] (List.forall_mem_singleton.mpr (not_or.mp other))

theorem number_passes (n : Nat) : Passes (toString n).toList := by
  refine calm_passes _ fun c member => ?_
  have digit := number_text_digit n c member
  constructor
  · rintro rfl
    cases digit
  · rintro rfl
    cases digit

def IsQuoted (name : String) : Prop := ∃ text, name.toList = inQuotes text ∧ Closed text

theorem numbered_quoted (mark : Char) (calm : Calm mark) (n : Nat) :
    IsQuoted (String.ofList ['"', mark] ++ toString n ++ "\"") := by
  have marked : Passes [mark] := calm_passes [mark] (List.forall_mem_singleton.mpr calm)
  refine ⟨mark :: (toString n).toList, ?_,
    passing_closed _ (passes_append [mark] _ marked (number_passes n))⟩
  simp [inQuotes]

theorem vertex_name_quoted (producer : Producer) : IsQuoted (vertexName producer) := by
  cases producer with
  | var id => exact numbered_quoted 'v' (by decide) id.index
  | node id => exact numbered_quoted 'n' (by decide) id.index

theorem box_name_quoted (id : FunctionId) : IsQuoted (boxName id) :=
  numbered_quoted 'f' (by decide) id.index

theorem name_quoted (vertex : Vertex) : IsQuoted vertex.name := by
  cases vertex with
  | record producer _ _ _ _ => exact vertex_name_quoted producer
  | box function _ _ => exact box_name_quoted function

theorem stem_quoted (head : ArrowHead) : IsQuoted head.stem := by
  cases head with
  | pin producer _ => exact vertex_name_quoted producer
  | west producer => exact vertex_name_quoted producer
  | box function => exact box_name_quoted function

end Names

-- The text is one statement on a line of its own, and a reader takes it for this one.
def ReadsAs (text : List Char) (statement : Statement) : Prop :=
  ∃ body, '\n' :: text = body ++ [';'] ∧ Mode.run {} body = some {} ∧
    readStatement? body = some statement

theorem named_statement_read (name : List Char) (closed : Closed name) (rest : List Char) :
    readStatement? ('\n' :: (inQuotes name ++ rest)) =
      match rest with
      | ':' :: rest => readArrow? (inQuotes name) rest
      | rest => readVertex? (inQuotes name) rest := by
  have opened : '\n' :: (inQuotes name ++ rest) = "\n\"".toList ++ (name ++ '"' :: rest) := by
    simp [inQuotes]
  rw [opened, readStatement?, prefix_dropped, Option.bind_some, closed, Option.bind_some]

theorem attributes_read (name label style : List Char) (ports : List (List Char)) (named : Closed name)
    (labelled : Closed label) (ported : readPorts? label style = some ports)
    (ends : Mode.run ⟨false, false, true⟩ style = some {}) :
    ReadsAs (inQuotes name ++ ("[\n\tlabel = \"".toList ++ (label ++ '"' :: (style ++ [';']))))
      (.vertex (inQuotes name) ports label) := by
  refine ⟨'\n' :: (inQuotes name ++
    ("[\n\tlabel = \"".toList ++ (label ++ '"' :: style))), by simp, ?_, ?_⟩
  · have parts : '\n' :: (inQuotes name ++ ("[\n\tlabel = \"".toList ++ (label ++ '"' :: style))) =
        ['\n'] ++ (inQuotes name ++ ("[\n\tlabel = ".toList ++ (inQuotes label ++ style))) := by
      simp [inQuotes]
    have opening : Mode.run {} "[\n\tlabel = ".toList = some ⟨false, false, true⟩ := by decide
    have line : Mode.run {} ['\n'] = some {} := by decide
    rw [parts, texts_run, line, Option.bind_some, texts_run, quotes_run false name named,
      Option.bind_some, texts_run, opening, Option.bind_some, texts_run,
      quotes_run true label labelled, Option.bind_some, ends]
  · have begins : "[\n\tlabel = \"".toList ++ (label ++ '"' :: style) =
        '[' :: ("\n\tlabel = \"".toList ++ (label ++ '"' :: style)) := rfl
    rw [named_statement_read name named, begins]
    change readVertex? (inQuotes name) ("[\n\tlabel = \"".toList ++ (label ++ '"' :: style)) = _
    rw [readVertex?, prefix_dropped, Option.bind_some, labelled, Option.bind_some, ported,
      Option.map_some]

section Ports

variable (rest : List Glyph)

theorem no_ports (glyphs : List Glyph) (quiet : .bare '<' ∉ glyphs) :
    portNames (glyphs ++ rest) = portNames rest := by
  induction glyphs with
  | nil => rfl
  | cons glyph later ih =>
      obtain ⟨other, quietLater⟩ := not_or.mp (List.mem_cons.not.mp quiet)
      rw [List.cons_append, portNames, if_neg (Ne.symm other), ih quietLater]

theorem bare_listed (c : Char) (text : List Char) : .bare c ∈ text.map Glyph.bare ↔ c ∈ text :=
  List.mem_map_of_injective fun _ _ => Glyph.bare.inj

theorem quiet_text (text : List Char) (quiet : '<' ∉ text) :
    portNames (text.map .bare ++ rest) = portNames rest :=
  no_ports rest _ fun inside => quiet ((bare_listed '<' text).mp inside)

theorem cell_port (pin : String) (plain : Unpunctuated pin) :
    portNames ((pinCell pin).map .bare ++ rest) = pin.toList :: portNames rest := by
  have closing : .bare '>' ∉ pin.toList.map Glyph.bare := fun inside =>
    plain '>' ((bare_listed '>' _).mp inside) (by decide)
  have opening : '<' ∉ pin.toList ++ '>' :: pin.toList := by
    have bare : '<' ∉ pin.toList := fun inside => plain '<' inside (by decide)
    simp [bare]
  have named := (text_cut (.bare '>') (pin.toList.map .bare)
    (.bare '>' :: (pin.toList.map .bare ++ rest)) closing (by simp)).1
  have read : (pin.toList.map Glyph.bare).map Glyph.meaning = pin.toList := by
    rw [List.map_map]
    exact List.map_id _
  have parts : (pin.toList ++ '>' :: pin.toList).map .bare ++ rest =
      pin.toList.map .bare ++ .bare '>' :: (pin.toList.map .bare ++ rest) := by simp
  rw [pinCell, List.map_cons, List.cons_append, portNames, if_pos rfl, quiet_text rest _ opening,
    parts, named, read]

theorem row_ports (pins : List String) (plain : ∀ pin ∈ pins, Unpunctuated pin) :
    portNames ((pinRow pins).map .bare ++ rest) = pins.map String.toList ++ portNames rest := by
  have cells : ∀ later, portNames ((List.intercalate ['|'] (pins.map pinCell)).map .bare ++ later) =
      pins.map String.toList ++ portNames later := by
    intro later
    induction pins with
    | nil => rfl
    | cons pin others ih =>
        obtain ⟨here, there⟩ := List.forall_mem_cons.mp plain
        cases others with
        | nil =>
            rw [List.map_singleton, List.intercalate_singleton, cell_port later pin here]
            rfl
        | cons next more =>
            rw [List.map_cons, List.map_cons, List.intercalate_cons_cons, List.map_append,
              List.map_append, List.append_assoc,
              List.append_assoc, cell_port _ pin here, quiet_text _ ['|'] (by decide),
                ← List.map_cons, ih there]
            rfl
  rw [pinRow, List.map_cons, List.map_append, List.cons_append, List.append_assoc]
  have opening := quiet_text ((List.intercalate ['|'] (pins.map pinCell)).map .bare ++
    (['\x7d'].map .bare ++ rest)) ['\x7b'] (by decide)
  exact opening.trans ((cells _).trans (congrArg _ (quiet_text rest ['\x7d'] (by decide))))

theorem front_ports (inputs : List String) (plain : ∀ pin ∈ inputs, Unpunctuated pin) :
    portNames ((labelFront inputs).map .bare ++ rest) = inputs.map String.toList ++ portNames rest := by
  cases inputs with
  | nil => exact quiet_text rest (labelFront []) (by decide)
  | cons pin others =>
      have parts : (labelFront (pin :: others)).map .bare ++ rest =
          ['\x7b'].map .bare ++ ((pinRow (pin :: others)).map .bare ++
            (['|', '\x7b'].map .bare ++ rest)) := by
        simp [labelFront]
      rw [parts, quiet_text _ ['\x7b'] (by decide), row_ports _ (pin :: others) plain,
        quiet_text rest ['|', '\x7b'] (by decide)]

theorem back_ports (outputs : List String) (plain : ∀ pin ∈ outputs, Unpunctuated pin) :
    portNames ((labelBack outputs).map Glyph.bare) = outputs.map String.toList := by
  cases outputs with
  | nil => decide
  | cons pin others =>
      have parts : (labelBack (pin :: others)).map Glyph.bare =
          ['\x7d', '|'].map Glyph.bare ++ ((pinRow (pin :: others)).map Glyph.bare ++
            ['\x7d'].map Glyph.bare) := by
        simp [labelBack]
      have ending : portNames (['\x7d'].map Glyph.bare) = [] := by decide
      rw [parts, quiet_text _ ['\x7d', '|'] (by decide), row_ports _ (pin :: others) plain, ending,
        List.append_nil]

theorem label_ports (inputs outputs : List String) (inputsPlain : ∀ pin ∈ inputs, Unpunctuated pin)
    (outputsPlain : ∀ pin ∈ outputs, Unpunctuated pin) (text : String) :
    (glyphs? (recordLabel inputs text outputs)).map portNames =
      some ((inputs ++ outputs).map String.toList) := by
  have quiet : .bare '<' ∉ text.toList.map glyphOf ++ [.coded 'l'] := fun inside =>
    absurd (text_glyphs_silent text.toList _ inside) (by decide)
  rw [label_read inputs outputs inputsPlain outputsPlain text, Option.map_some, List.append_assoc,
    front_ports _ inputs inputsPlain, no_ports _ _ quiet, back_ports outputs outputsPlain,
    List.map_append]

end Ports

-- The character ends neither a quoted text nor a list of attributes.
def Harmless (c : Char) : Prop := c ≠ '"' ∧ c ≠ ']'

structure RecordPlain (inputs outputs : List String) (style : String) : Prop where
  inputs : ∀ pin ∈ inputs, Unpunctuated pin
  outputs : ∀ pin ∈ outputs, Unpunctuated pin
  style : ∀ c ∈ style.toList, Harmless c

def Vertex.IsPlain : Vertex → Prop
  | .record _ inputs _ outputs style => RecordPlain inputs outputs style
  | .box _ _ _ => True

theorem label_closed (vertex : Vertex) (plain : vertex.IsPlain) : Closed vertex.label := by
  cases vertex with
  | record producer inputs text outputs style =>
      exact (label_holds inputs outputs plain.inputs plain.outputs text).closed
  | box function name size =>
      have opening : Passes "Function\\lname : ".toList := glyphs_pass _ _ rfl (by decide)
      have middle : Passes "\\lnode count : ".toList := glyphs_pass _ _ rfl (by decide)
      have ending : Passes "\\l".toList := glyphs_pass _ _ rfl (by decide)
      simp only [Vertex.label, String.toList_append]
      refine passing_closed _ ?_
      exact passes_append _ _ (passes_append _ _
        (passes_append _ _ (passes_append _ _ opening (quoted_passes name)) middle)
        (number_passes size)) ending

theorem vertex_read (vertex : Vertex) (plain : vertex.IsPlain) :
    ReadsAs vertex.text.toList vertex.statement := by
  obtain ⟨name, spelled, named⟩ := name_quoted vertex
  have labelled := label_closed vertex plain
  rw [Vertex.statement, spelled]
  cases vertex with
  | record producer inputs text outputs style =>
      let shape := "\n\tshape = \"record\"".toList
      let fill := "\n\tstyle=\"filled,rounded\"\n\t".toList ++ (style.toList ++ "\npenwidth = 2]".toList)
      have ported : readPorts? (recordLabel inputs text outputs) (shape ++ fill) =
          some ((inputs ++ outputs).map String.toList) := by
        rw [readPorts?, if_pos (List.isPrefixOf_iff_prefix.mpr (List.prefix_append shape fill))]
        exact label_ports inputs outputs plain.inputs plain.outputs text
      have ends : Mode.run ⟨false, false, true⟩ (shape ++ fill) = some {} := by
        have shaped : Mode.run ⟨false, false, true⟩ shape = some ⟨false, false, true⟩ := by decide
        have first : Mode.run ⟨false, false, true⟩ "\n\tstyle=\"filled,rounded\"\n\t".toList =
            some ⟨false, false, true⟩ := by
          decide +kernel
        have styled : Mode.run ⟨false, false, true⟩ style.toList = some ⟨false, false, true⟩ := by
          refine still_run _ _ fun c inside => ?_
          simp [Mode.ends, Mode.next, (plain.style c inside).1, (plain.style c inside).2]
        have last : Mode.run ⟨false, false, true⟩ "\npenwidth = 2]".toList = some {} := by decide
        rw [texts_run, shaped, Option.bind_some, texts_run, first, Option.bind_some, texts_run, styled,
          Option.bind_some, last]
      have parts : (Vertex.record producer inputs text outputs style).text.toList = inQuotes name ++
          ("[\n\tlabel = \"".toList ++ (recordLabel inputs text outputs ++ '"' ::
            (shape ++ fill ++ [';']))) := by
        rw [← spelled]
        simp [Vertex.text, Vertex.name, shape, fill]
      rw [parts]
      exact attributes_read name _ _ _ named labelled ported ends
  | box function text size =>
      let shape := "\n\tshape = box\n\tfillcolor=gray89, style=\"filled,rounded\"\n]".toList
      have ends : Mode.run ⟨false, false, true⟩ shape = some {} := by decide +kernel
      have parts : (Vertex.box function text size).text.toList = inQuotes name ++
          ("[\n\tlabel = \"".toList ++ ((Vertex.box function text size).label ++ '"' ::
            (shape ++ [';']))) := by
        rw [← spelled]
        simp [Vertex.text, Vertex.name, Vertex.label, shape]
      rw [parts]
      exact attributes_read name _ shape [] named labelled rfl ends

theorem pin_run (pin : String) (plain : PlainPin pin) : Mode.run {} pin.toList = some {} := by
  refine still_run {} _ fun c inside => ?_
  have letter := plain.letter c inside
  have ends : c ≠ ';' := fun same => absurd (same ▸ letter) (by decide)
  have quote : c ≠ '"' := fun same => absurd (same ▸ letter) (by decide)
  have list : c ≠ '[' := fun same => absurd (same ▸ letter) (by decide)
  simp [Mode.ends, Mode.next, ends, quote, list]

section Heads

variable (head : ArrowHead) (plain : ∀ producer input, head = .pin producer input → PlainPin input)

include plain

theorem port_run : Mode.run {} head.port.toList = some {} := by
  cases head with
  | pin producer input =>
      have colon : Mode.run {} ":".toList = some {} := by decide
      rw [ArrowHead.port, String.toList_append, texts_run, colon, Option.bind_some,
        pin_run input (plain producer input rfl)]
  | west producer => exact (by decide : Mode.run {} ":w".toList = some {})
  | box function => rfl

theorem port_unspaced : ' ' ∉ head.port.toList := by
  cases head with
  | pin producer input => simp [ArrowHead.port, (plain producer input rfl).unspaced]
  | west producer => simp [ArrowHead.port]
  | box function => simp [ArrowHead.port]

end Heads

theorem arrow_read (arrow : Arrow) (plain : arrow.IsPlain) :
    ReadsAs (arrow.text.toList ++ [';']) arrow.statement := by
  obtain ⟨tail, spelledTail, namedTail⟩ := vertex_name_quoted arrow.tail
  obtain ⟨head, spelledHead, namedHead⟩ := stem_quoted arrow.head
  have port : Mode.run {} arrow.head.port.toList = some {} := port_run arrow.head plain.head
  have mark : Mode.run {} arrow.mark.toList = some {} := by
    unfold Arrow.mark
    split <;> decide
  let behind := arrow.pin.toList ++
    (" -> \"".toList ++ (head ++ '"' :: (arrow.head.port.toList ++ arrow.mark.toList)))
  refine ⟨'\n' :: (inQuotes tail ++ ':' :: behind), ?_, ?_, ?_⟩
  · rw [Arrow.text, head_parts]
    simp [behind, spelledTail, spelledHead, inQuotes, Arrow.mark]
  · have parts : '\n' :: (inQuotes tail ++ ':' :: behind) = ['\n'] ++
        (inQuotes tail ++ ([':'] ++ (arrow.pin.toList ++
        (" -> ".toList ++ (inQuotes head ++ (arrow.head.port.toList ++ arrow.mark.toList)))))) := by
      simp [behind, inQuotes]
    have line : Mode.run {} ['\n'] = some {} := by decide
    have colon : Mode.run {} [':'] = some {} := by decide
    have sign : Mode.run {} " -> ".toList = some {} := by decide
    rw [parts]
    simp only [texts_run, line, quotes_run false tail namedTail, colon, pin_run arrow.pin plain.pin,
      sign, quotes_run false head namedHead, port, mark, Option.bind_some]
  · obtain ⟨pin, afterPin⟩ :=
      text_cut ' ' arrow.pin.toList (" -> \"".toList ++ (head ++ '"' :: (arrow.head.port.toList ++
      arrow.mark.toList))) plain.pin.unspaced (by simp)
    obtain ⟨port, afterPort⟩ := text_cut ' ' arrow.head.port.toList arrow.mark.toList
      (port_unspaced arrow.head plain.head) (mark_spaced arrow)
    rw [named_statement_read tail namedTail]
    change readArrow? (inQuotes tail) behind = some arrow.statement
    rw [readArrow?, afterPin, prefix_dropped, Option.bind_some, namedHead, Option.bind_some, pin]
    simp only [port, afterPort, Arrow.statement, spelledTail, spelledHead]
    unfold Arrow.mark
    cases arrow.isTwoWay <;> rfl

theorem texts_read {α : Type} (items : List α) (text : α → List Char) (statement : α → Statement)
    (read : ∀ item ∈ items, ReadsAs (text item) (statement item)) :
    List.Forall₂ ReadsAs (items.map text) (items.map statement) :=
  List.forall₂_map_left_iff.mpr (List.forall₂_map_right_iff.mpr (List.forall₂_same.mpr read))

theorem statements_split (texts : List (List Char)) (statements : List Statement)
    (read : List.Forall₂ ReadsAs texts statements) (last : List Char) :
    ∃ bodies, Mode.split {} (texts.flatMap ('\n' :: ·) ++ last) = bodies ++ Mode.split {} last ∧
      bodies.mapM readStatement? = some statements := by
  induction read with
  | nil => exact ⟨[], rfl, rfl⟩
  | cons first _ ih =>
      obtain ⟨bodies, splits, later⟩ := ih
      obtain ⟨body, same, runs, stated⟩ := first
      refine ⟨body :: bodies, ?_, by simp [stated, later]⟩
      rw [List.flatMap_cons, same, List.append_assoc, List.append_assoc, text_split _ _ _ _ runs,
        List.singleton_append, Mode.split, if_pos (by decide), splits, List.modifyHead_cons,
        List.append_nil]
      rfl

-- A line break that ends each text may as well begin it.
theorem breaks_shifted (texts : List (List Char)) (rest : List Char) :
    '\n' :: (texts.flatMap (· ++ ['\n']) ++ rest) = texts.flatMap ('\n' :: ·) ++ '\n' :: rest := by
  induction texts with
  | nil => rfl
  | cons text others ih =>
      rw [List.flatMap_cons, List.flatMap_cons, List.append_assoc, List.append_assoc,
        List.append_assoc, ← ih]
      rfl

theorem drawing_lines (drawing : Drawing) :
    drawing.text.toList = "digraph DAG \x7b\n\trankdir=TB;".toList ++
      (((drawing.vertices.map fun vertex => vertex.text.toList) ++
        drawing.arrowLines.map fun line => line.toList ++ [';']).flatMap ('\n' :: ·) ++ '\n' ::
          ['\x7d']) := by
  have opening : "digraph DAG \x7b\n\trankdir=TB;\n".toList =
      "digraph DAG \x7b\n\trankdir=TB;".toList ++ ['\n'] := rfl
  have brace : "\x7d".toList = ['\x7d'] := rfl
  have line : "\n".toList = ['\n'] := rfl
  have stop : ";\n".toList = [';', '\n'] := rfl
  rw [← breaks_shifted]
  unfold Drawing.text
  simp only [String.toList_append, String.toList_join, List.flatMap_append, List.flatMap_map,
    List.append_assoc, opening, brace, line, stop, List.cons_append, List.nil_append]

-- What a drawing is written as is read back as its vertices and arrows, all of them and in their order.
theorem drawing_read (drawing : Drawing) (vertices : ∀ vertex ∈ drawing.vertices, vertex.IsPlain)
    (arrows : ∀ arrow ∈ drawing.arrows, arrow.IsPlain) :
    readDrawing? drawing.text =
      some (drawing.vertices.map Vertex.statement ++
        (withoutRepeats drawing.arrows).map Arrow.statement) := by
  have lines := lines_of_arrows drawing arrows
  have stated : List.Forall₂ ReadsAs
      ((drawing.vertices.map fun vertex => vertex.text.toList) ++ drawing.arrowLines.map
        fun line => line.toList ++ [';'])
      (drawing.vertices.map Vertex.statement ++
        (withoutRepeats drawing.arrows).map Arrow.statement) := by
    rw [lines, List.map_map]
    refine List.rel_append (texts_read _ _ _ ?_) (texts_read _ _ _ ?_)
    · exact fun vertex drawn => vertex_read vertex (vertices vertex drawn)
    · exact fun arrow kept => arrow_read arrow (arrows arrow ((kept_item_iff _ _).mp kept))
  obtain ⟨bodies, splits, read⟩ := statements_split _ _ stated ('\n' :: ['\x7d'])
  have last : Mode.split {} ('\n' :: ['\x7d']) = ["\n\x7d".toList] := by decide
  rw [readDrawing?, drawing_lines, prefix_dropped, Option.bind_some, splits, last]
  simp only [List.getLast?_concat, List.dropLast_concat, read, if_true]

section Styles

theorem harmless_text (text : String)
    (checked : text.toList.all (fun c => c != '"' && c != ']') = true) :
    ∀ c ∈ text.toList, Harmless c := by
  intro c inside
  simpa [Harmless] using List.all_eq_true.mp checked c inside

theorem variable_vertex_plain (v : Variable) (types : TypePool) : (v.vertex types).IsPlain := by
  refine ⟨List.forall_mem_nil _, by decide, ?_⟩
  cases v.visibility with
  | external => exact harmless_text _ (by decide)
  | internal => exact harmless_text _ (by decide)

theorem node_color_harmless (name : String) : ∀ c ∈ (nodeColor name).toList, Harmless c := by
  have known : ("White" :: nodeColors).all (fun color => color.toList.all
    fun c => c != '"' && c != ']') = true := by decide
  refine harmless_text _ (List.all_eq_true.mp known _ ?_)
  unfold nodeColor pickFrom?
  split
  · exact List.mem_cons_self
  · cases picked : nodeColors[(textHash name).toNat % nodeColors.length]? with
    | none => exact List.mem_cons_self
    | some color => exact List.mem_cons_of_mem _ (List.mem_of_getElem? picked)

theorem node_vertex_plain (node : Node) (types : TypePool) : (node.vertex types).IsPlain := by
  refine ⟨List.forall_mem_map.mpr fun i _ => input_name_unpunctuated _ i,
    List.forall_mem_map.mpr fun i _ => output_name_unpunctuated _ i, ?_⟩
  rw [String.toList_append]
  exact List.forall_mem_append.mpr ⟨harmless_text _ (by decide), node_color_harmless _⟩

end Styles

theorem drawn_vertex_plain (scope : Scope) : ∀ vertex ∈ scope.drawing.vertices, vertex.IsPlain :=
  drawn_vertex_satisfies Vertex.IsPlain scope (fun v => variable_vertex_plain v scope.types) fun node =>
    node_vertex_plain node scope.types

theorem overview_vertex_plain (network : Network) :
    ∀ vertex ∈ network.drawing.vertices, vertex.IsPlain :=
  overview_vertex_satisfies Vertex.IsPlain network (fun v => variable_vertex_plain v network.types)
    fun _ => trivial

end TensorGraph
