import TensorGraph.Proofs.NumberTexts

set_option autoImplicit false

namespace TensorGraph

section Strings

-- What a character is read back as: control characters without a letter of their own come back as
-- numbers.
def stringUnit (c : Char) : StringUnit :=
  if c.toNat < 32 ∧ c ∉ ['\n', '\r', '\t', '\x08', '\x0c'] then .code c.toNat else .char c

theorem hex_digits_read (n : Nat) (control : n < 32) :
    hexNumber? ['0', '0', hexDigit (n / 16), hexDigit (n % 16)] = some n := by
  have all : ∀ n < 32, hexNumber? ['0', '0', hexDigit (n / 16), hexDigit (n % 16)] = some n := by decide
  exact all n control

section Scanning

variable (c : Char) (tail rest : List Char) (units : List StringUnit)
  (scanned : scanUnits tail = some (units, rest))

include scanned

theorem scan_plain (unquoted : c ≠ '"') (unescaped : c ≠ '\\') (printed : ¬ c.toNat < 32) :
    scanUnits (c :: tail) = some (.char c :: units, rest) := by
  rw [scanUnits.eq_def]
  split
  · rename_i impossible
    cases impossible
  · rename_i quote
    cases quote
    exact absurd rfl unquoted
  · rename_i escape
    cases escape
    exact absurd rfl unescaped
  · rename_i escape
    cases escape
    exact absurd rfl unescaped
  · rename_i same
    cases same
    rw [if_neg printed, scanned]

theorem scan_letter (letter : Char) (escape : letterEscape? letter = some c) :
    scanUnits ('\\' :: letter :: tail) = some (.char c :: units, rest) := by
  have other : letter ≠ 'u' := by
    rintro rfl
    cases escape
  rw [scanUnits.eq_def]
  split
  · rename_i impossible
    cases impossible
  · rename_i quote
    cases quote
  · rename_i number
    cases number
    exact absurd rfl other
  · rename_i same
    cases same
    rw [escape, scanned]
  · rename_i unescaped same
    cases same
    exact (unescaped letter tail rfl rfl).elim

theorem scan_control (control : c.toNat < 32) :
    scanUnits ('\\' :: 'u' :: '0' :: '0' :: hexDigit (c.toNat / 16) :: hexDigit (c.toNat % 16) :: tail) =
      some (.code c.toNat :: units, rest) := by
  rw [scanUnits, hex_digits_read c.toNat control, scanned]

theorem scan_char : scanUnits (jsonChar c ++ tail) = some (stringUnit c :: units, rest) := by
  have letter := fun c => scan_letter c tail rest units scanned
  simp only [jsonChar]
  split_ifs with quote backslash newline back tab feed form control
  · subst quote
    exact letter '"' '"' rfl
  · subst backslash
    exact letter '\\' '\\' rfl
  · subst newline
    exact letter '\n' 'n' rfl
  · subst back
    exact letter '\r' 'r' rfl
  · subst tab
    exact letter '\t' 't' rfl
  · subst feed
    exact letter '\x08' 'b' rfl
  · subst form
    exact letter '\x0c' 'f' rfl
  · have unit : stringUnit c = .code c.toNat :=
      if_pos ⟨control, by simp [newline, back, tab, feed, form]⟩
    rw [unit]
    exact scan_control c tail rest units scanned control
  · have unit : stringUnit c = .char c := if_neg (fun escaped => control escaped.1)
    rw [unit]
    exact scan_plain c tail rest units scanned quote backslash control

end Scanning

theorem scan_text (text rest : List Char) :
    scanUnits (text.flatMap jsonChar ++ '"' :: rest) = some (text.map stringUnit, rest) := by
  induction text with
  | nil => rfl
  | cons c tail ih =>
      rw [List.flatMap_cons, List.append_assoc]
      exact scan_char c _ rest _ ih

theorem join_control (n : Nat) (units : List StringUnit) (control : n < 32) :
    joinUnits (.code n :: units) = (joinUnits units).map (Char.ofNat n :: ·) := by
  have high : isHighSurrogate n = false := by
    rw [isHighSurrogate, decide_eq_false (by omega), Bool.false_and]
  have low : isLowSurrogate n = false := by
    rw [isLowSurrogate, decide_eq_false (by omega), Bool.false_and]
  cases units with
  | nil => simp [joinUnits, high, low]
  | cons unit rest =>
      cases unit with
      | char c => simp [joinUnits, high, low]
      | code m => simp [joinUnits, high, low]

theorem join_char_units (text : List Char) : joinUnits (text.map stringUnit) = some text := by
  induction text with
  | nil => rfl
  | cons c tail ih =>
      rw [List.map_cons, stringUnit]
      split_ifs with escaped
      · rw [join_control c.toNat _ escaped.1, ih, Option.map_some, Char.ofNat_toNat]
      · rw [joinUnits, ih, Option.map_some]

theorem string_reads (text : String) (rest : List Char) :
    ∃ tail, jsonString text ++ rest = '"' :: tail ∧ readString tail = some (some text, rest) := by
  refine ⟨text.toList.flatMap jsonChar ++ '"' :: rest, by simp [jsonString], ?_⟩
  rw [readString, scan_text, Option.map_some, join_char_units, Option.map_some, String.ofList_toList]

end Strings

-- A value as writing makes it: nothing is missing in its strings, and its real numbers have no digits to
-- spare.
inductive Json.Plain : Json → Prop where
  | null : Plain .null
  | bool (value : Bool) : Plain (.bool value)
  | whole (negative : Bool) (n : Nat) : Plain (.whole negative n)
  | real (negative : Bool) (d : Decimal) (reduced : d.IsReduced) : Plain (.real negative d)
  | text (text : String) : Plain (.text text)
  | array (items : List Json) (all : ∀ item ∈ items, Plain item) : Plain (.array items)
  | record (fields : List (String × Json)) (all : ∀ field ∈ fields, Plain field.2) :
      Plain (.record fields)

-- Read with as many steps as the text has characters, the text of the value gives the value and ends
-- where it ends.
structure Json.ReadsBack (value : Json) : Prop where
  starts : ∃ c tail, value.write = c :: tail ∧ isJsonBlank c = false ∧ c ≠ ']'
  reads : ∀ fuel rest, value.write.length ≤ fuel + 1 → Delimited rest →
    Json.readValue (fuel + 1) (value.write ++ rest) = some (value, rest)

section Values

variable (fuel : Nat) (rest : List Char)

theorem skip_nothing (c : Char) (tail : List Char) (solid : isJsonBlank c = false) :
    skipBlanks (c :: tail) = c :: tail := by
  rw [skipBlanks, List.dropWhile_cons_of_neg (by simp [solid])]

theorem digit_solid (c : Char) (digit : c.isDigit = true ∨ c = '-') :
    isJsonBlank c = false ∧ c ≠ ']' := by
  have others (other : Char) (unlike : other.isDigit = false ∧ other ≠ '-') : c ≠ other := by
    rintro rfl
    rcases digit with same | same
    · exact absurd (unlike.1.symm.trans same) (by decide)
    · exact unlike.2 same
  refine ⟨?_, others ']' (by decide)⟩
  simp only [isJsonBlank, Bool.or_eq_false_iff, beq_eq_false_iff_ne]
  exact ⟨⟨⟨others ' ' (by decide), others '\n' (by decide)⟩, others '\t' (by decide)⟩,
    others '\r' (by decide)⟩

theorem digit_starts_number (c : Char) (tail : List Char) (digit : c.isDigit = true ∨ c = '-') :
    Json.readValue (fuel + 1) (c :: tail) = readNumber (c :: tail) := by
  rw [Json.readValue, skip_nothing c tail (digit_solid c digit).1]
  split
  case h_7 => rfl
  all_goals
    rename_i other
    cases other
    exact absurd digit (by decide)

theorem reads_within (value : Json) (back : value.ReadsBack) (enough : value.write.length ≤ fuel)
    (delimited : Delimited rest) : Json.readValue fuel (value.write ++ rest) = some (value, rest) := by
  obtain ⟨c, tail, written, _⟩ := back.starts
  obtain ⟨fewer, rfl⟩ : ∃ fewer, fuel = fewer + 1 := by
    refine Nat.exists_eq_add_one.mpr (Nat.lt_of_lt_of_le ?_ enough)
    simp [written]
  exact back.reads fewer rest enough delimited

theorem number_reads_back (value : Json) (numeral : Numeral) (negative : Bool)
    (text : value.write = signedText negative numeral.text) (same : numeral.value negative = value) :
      value.ReadsBack := by
  obtain ⟨c, tail, written, digit⟩ : ∃ c tail, value.write = c :: tail ∧
      (c.isDigit = true ∨ c = '-') := by
    obtain ⟨c, tail, first, digit⟩ := numeral_starts numeral
    cases negative with
    | true => exact ⟨'-', numeral.text, text, .inr rfl⟩
    | false => exact ⟨c, tail, text.trans first, .inl digit⟩
  refine ⟨⟨c, tail, written, digit_solid c digit⟩, fun fuel rest _ delimited => ?_⟩
  have read := numeral_reads numeral negative rest delimited
  rw [← text, same] at read
  rw [← read, written]
  exact digit_starts_number fuel c (tail ++ rest) digit

theorem items_read_back (items : List Json) (some : items ≠ []) (all : ∀ item ∈ items, item.ReadsBack)
    (enough : (Json.writeItems items).length + 1 ≤ fuel) :
    Json.readItems fuel (Json.writeItems items ++ ']' :: rest) = Option.some (items, rest) := by
  induction items generalizing fuel with
  | nil => exact absurd rfl some
  | cons item others ih =>
      obtain ⟨fewer, rfl⟩ : ∃ fewer, fuel = fewer + 1 := Nat.exists_eq_add_one.mpr (by omega)
      have first (rest : List Char) := reads_within fewer rest item (all item List.mem_cons_self)
      cases others with
      | nil =>
          have text : Json.writeItems [item] = item.write := rfl
          rw [text] at enough ⊢
          rw [Json.readItems, first (']' :: rest) (by omega) (by simp [Delimited])]
          rfl
      | cons next more =>
          have text : Json.writeItems (item :: next :: more) = item.write ++ ',' ::
              Json.writeItems (next :: more) := rfl
          rw [text, List.length_append, List.length_cons] at enough
          have later :=
            ih fewer (by simp) (fun item member => all item (List.mem_cons_of_mem _ member)) (by omega)
          rw [text, List.append_assoc, List.cons_append, Json.readItems,
            first _ (by omega) (by simp [Delimited])]
          simp only [skip_nothing ',' _ rfl, later, Option.map_some]

-- A field of a record as it is written.
def Json.field (field : String × Json) : Option String × Json := (some field.1, field.2)

theorem fields_read_back (fields : List (String × Json)) (some : fields ≠ [])
    (all : ∀ field ∈ fields, field.2.ReadsBack)
    (enough : (Json.writeFields (fields.map Json.field)).length + 1 ≤ fuel) :
    Json.readFields fuel (Json.writeFields (fields.map Json.field) ++ '\x7d' :: rest) =
      Option.some (fields.map Json.field, rest) := by
  induction fields generalizing fuel with
  | nil => exact absurd rfl some
  | cons field others ih =>
      obtain ⟨fewer, rfl⟩ : ∃ fewer, fuel = fewer + 1 := Nat.exists_eq_add_one.mpr (by omega)
      have first (rest : List Char) := reads_within fewer rest field.2 (all field List.mem_cons_self)
      cases others with
      | nil =>
          have text : Json.writeFields ([field].map Json.field) = jsonString field.1 ++ ':' ::
              field.2.write := rfl
          rw [text, List.length_append, List.length_cons] at enough
          obtain ⟨tail, quoted, key⟩ := string_reads field.1 (':' :: (field.2.write ++ '\x7d' :: rest))
          rw [text, List.append_assoc, List.cons_append, quoted, Json.readFields]
          simp only [skip_nothing '"' _ rfl, key, skip_nothing ':' _ rfl,
            first ('\x7d' :: rest) (by omega) (by simp [Delimited]), skip_nothing '\x7d' _ rfl]
          rfl
      | cons next more =>
          have text : Json.writeFields ((field :: next :: more).map Json.field) =
              jsonString field.1 ++ ':' :: (field.2.write ++ ',' ::
                Json.writeFields ((next :: more).map Json.field)) := rfl
          rw [text, List.length_append, List.length_cons, List.length_append, List.length_cons] at enough
          have later :=
            ih fewer (by simp) (fun field member => all field (List.mem_cons_of_mem _ member)) (by omega)
          obtain ⟨tail, quoted, key⟩ := string_reads field.1
            (':' :: (field.2.write ++ ',' :: (Json.writeFields ((next :: more).map Json.field) ++
              '\x7d' :: rest)))
          rw [text, List.append_assoc, List.cons_append, List.append_assoc, List.cons_append, quoted,
            Json.readFields]
          simp only [skip_nothing '"' _ rfl, key, skip_nothing ':' _ rfl,
            first (',' :: (Json.writeFields ((next :: more).map Json.field) ++ '\x7d' :: rest))
              (by omega) (by simp [Delimited]), skip_nothing ',' _ rfl, later, Option.map_some]
          rfl

theorem string_reads_back (text : String) : (Json.text text).ReadsBack := by
  refine ⟨⟨'"', _, rfl, rfl, by decide⟩, fun fuel rest _ _ => ?_⟩
  have written : (Json.text text).write = jsonString text := rfl
  obtain ⟨tail, quoted, read⟩ := string_reads text rest
  rw [written, quoted, Json.readValue]
  simp only [skip_nothing '"' _ rfl, read, Option.map_some]
  rfl

theorem items_start (item : Json) (others : List Json) (reads : item.ReadsBack) :
    ∃ c tail, Json.writeItems (item :: others) = c :: tail ∧ isJsonBlank c = false ∧ c ≠ ']' := by
  obtain ⟨c, tail, first, solid⟩ := reads.starts
  cases others with
  | nil => exact ⟨c, tail, first, solid⟩
  | cons next more =>
      exact ⟨c, tail ++ ',' :: Json.writeItems (next :: more), congrArg (· ++ _) first, solid⟩

theorem array_reads_back (items : List Json) (all : ∀ item ∈ items, item.ReadsBack) :
    (Json.array items).ReadsBack := by
  refine ⟨⟨'[', _, rfl, rfl, by decide⟩, fun fuel rest enough _ => ?_⟩
  have written : (Json.array items).write = '[' :: (Json.writeItems items ++ [']']) := rfl
  rw [written, List.length_cons, List.length_append, List.length_singleton] at enough
  have opened : (Json.array items).write ++ rest = '[' :: (Json.writeItems items ++ ']' :: rest) := by
    rw [written, List.cons_append, List.append_assoc, List.singleton_append]
  rw [opened, Json.readValue]
  simp only [skip_nothing '[' _ rfl]
  cases items with
  | nil => rfl
  | cons item others =>
      have read := items_read_back fuel rest (item :: others) (by simp) all (by omega)
      obtain ⟨c, tail, first, solid, unclosed⟩ := items_start item others (all item List.mem_cons_self)
      rw [first, List.cons_append] at read ⊢
      rw [skip_nothing c _ solid]
      split
      · rename_i closed
        cases closed
        exact absurd rfl unclosed
      · rw [read, Option.map_some]

theorem fields_start (field : String × Json) (others : List (String × Json)) :
    ∃ tail, Json.writeFields ((field :: others).map Json.field) = '"' :: tail := by
  cases others with
  | nil => exact ⟨_, rfl⟩
  | cons next more => exact ⟨_, rfl⟩

theorem record_reads_back (fields : List (String × Json)) (all : ∀ field ∈ fields, field.2.ReadsBack) :
    (Json.record fields).ReadsBack := by
  refine ⟨⟨'\x7b', _, rfl, rfl, by decide⟩, fun fuel rest enough _ => ?_⟩
  have written : (Json.record fields).write = '\x7b' ::
      (Json.writeFields (fields.map Json.field) ++ ['\x7d']) := rfl
  rw [written, List.length_cons, List.length_append, List.length_singleton] at enough
  have opened : (Json.record fields).write ++ rest =
      '\x7b' :: (Json.writeFields (fields.map Json.field) ++ '\x7d' :: rest) := by
    rw [written, List.cons_append, List.append_assoc, List.singleton_append]
  rw [opened, Json.readValue]
  simp only [skip_nothing '\x7b' _ rfl]
  cases fields with
  | nil => rfl
  | cons field others =>
      have read := fields_read_back fuel rest (field :: others) (by simp) all (by omega)
      obtain ⟨tail, first⟩ := fields_start field others
      rw [first, List.cons_append] at read ⊢
      rw [skip_nothing '"' _ rfl]
      split
      · rename_i closed
        cases closed
      · rw [read]
        rfl

theorem plain_reads_back (value : Json) (plain : value.Plain) : value.ReadsBack := by
  induction plain with
  | null => exact ⟨⟨'n', _, rfl, rfl, by decide⟩, fun _ _ _ _ => rfl⟩
  | bool value =>
      cases value with
      | false => exact ⟨⟨'f', _, rfl, rfl, by decide⟩, fun _ _ _ _ => rfl⟩
      | true => exact ⟨⟨'t', _, rfl, rfl, by decide⟩, fun _ _ _ _ => rfl⟩
  | whole negative n =>
      obtain ⟨text, value⟩ := whole_numeral negative n
      exact number_reads_back _ (.ofNat n) negative (congrArg (signedText negative) text.symm) value
  | real negative d reduced =>
      obtain ⟨numeral, text, value⟩ := real_numeral d reduced
      exact number_reads_back _ numeral negative (congrArg (signedText negative) text.symm)
        (value negative)
  | text text => exact string_reads_back text
  | array items all ih => exact array_reads_back items ih
  | record fields all ih => exact record_reads_back fields ih

theorem plain_text_reads_back (value : Json) (plain : value.Plain) :
    Json.read? value.compact = some value := by
  have read := reads_within (2 * value.write.length + 2) [] value
    (plain_reads_back value plain) (by omega)
    (by simp [Delimited])
  rw [List.append_nil] at read
  simp only [Json.read?, Json.compact, String.toList_ofList, read]
  rfl

end Values

end TensorGraph
