import TensorGraph.Json.Reader
import TensorGraph.Json.Writer
import TensorGraph.Proofs.ShortestDecimals

set_option autoImplicit false

namespace TensorGraph

-- What comes after a value inside a text, or the end of the text.
def Delimited (rest : List Char) : Prop := ∀ c ∈ rest.head?, c = ',' ∨ c = ']' ∨ c = '\x7d'

structure AreDigits (text : List Char) : Prop where
  some : text ≠ []
  all : ∀ c ∈ text, c.isDigit = true

def fractionPart (fraction : Option (List Char)) : List Char := (fraction.map ('.' :: ·)).getD []

def exponentPart (exponent : Option Int) : List Char := (exponent.map DecimalLayout.exponentText).getD []

section Digits

variable (n : Nat) (text rest : List Char)

theorem decimal_digits_are_digits : AreDigits (decimalDigits n) :=
  ⟨Nat.toDigits_ne_nil, fun _ member => Nat.isDigit_of_mem_toDigits (by decide) (by decide) member⟩

theorem zeros_are_digits (count : Nat) : ∀ c ∈ List.replicate count '0', c.isDigit = true := by
  intro c member
  rw [List.eq_of_mem_replicate member]
  rfl

theorem zero_is_digits : AreDigits ['0'] := ⟨List.cons_ne_nil _ _, zeros_are_digits 1⟩

theorem digits_value_of_digits : digitsValue (decimalDigits n) = n := Nat.ofDigitChars_ten_toDigits

theorem digits_value_append_zeros (count : Nat) :
    digitsValue (text ++ List.replicate count '0') = digitsValue text * 10 ^ count := by
  have padded : digitsValue (text ++ List.replicate count '0') = 10 ^ count * digitsValue text :=
    (Nat.ofDigitChars_append 0).trans Nat.ofDigitChars_replicate_zero
  rw [padded, Nat.mul_comm]

theorem digits_value_after_zeros (count : Nat) :
    digitsValue (List.replicate count '0' ++ text) = digitsValue text := by
  have padded : digitsValue (List.replicate count '0' ++ text) =
      Nat.ofDigitChars 10 text (10 ^ count * 0) :=
    (Nat.ofDigitChars_append 0).trans (congrArg _ Nat.ofDigitChars_replicate_zero)
  exact padded

theorem first_digit_nonzero (positive : 0 < n) : ∀ c ∈ (decimalDigits n).head?, c ≠ '0' := by
  induction n using Nat.strongRecOn with
  | _ n ih =>
      by_cases single : n < 10
      · have nonzero : ∀ digit < 10, 0 < digit → digit.digitChar ≠ '0' := by decide
        rw [decimalDigits, Nat.toDigits_of_lt_base single]
        simpa using nonzero n single positive
      · have shorter := ih (n / 10) (by omega) (by omega)
        rw [decimalDigits, Nat.toDigits_of_base_le (by decide) (by omega)]
        rwa [List.head?_append_of_ne_nil _ Nat.toDigits_ne_nil]

theorem no_extra_zero (starts : ∀ c ∈ text.head?, c ≠ '0') : hasExtraZero text = false := by
  rw [hasExtraZero.eq_def]
  split
  · exact absurd rfl (starts '0' rfl)
  · rfl

theorem single_digit_plain (digit : Char) : hasExtraZero [digit] = false := by
  rw [hasExtraZero.eq_def]
  split
  · rename_i two
    cases two
  · rfl

theorem digits_without_extra_zero : hasExtraZero (decimalDigits n) = false := by
  rcases Nat.eq_zero_or_pos n with rfl | positive
  · rfl
  · exact no_extra_zero _ (first_digit_nonzero n positive)

theorem take_digits (digits : AreDigits text) (ends : ∀ c ∈ rest.head?, c.isDigit = false) :
    takeDigits (text ++ rest) = some (text, rest) := by
  have untaken : rest.takeWhile Char.isDigit = [] ∧ rest.dropWhile Char.isDigit = rest := by
    cases rest with
    | nil => exact ⟨rfl, rfl⟩
    | cons c tail => simp [ends c rfl]
  simp only [takeDigits, List.takeWhile_append_of_pos digits.all,
    List.dropWhile_append_of_pos digits.all, untaken.1,
    untaken.2, List.append_nil]
  rw [if_neg (by simpa using digits.some)]

end Digits

section Parts

variable (rest : List Char) (fraction : Option (List Char)) (exponent : Option Int)

theorem delimiter_ends_number (delimited : Delimited rest) :
    ∀ c ∈ rest.head?, c.isDigit = false ∧ c ≠ '.' ∧ c ≠ 'e' ∧ c ≠ 'E' := by
  intro c next
  rcases delimited c next with rfl | rfl | rfl
  · decide
  · decide
  · decide

theorem exponent_ends_digits (delimited : Delimited rest) :
    ∀ c ∈ (exponentPart exponent ++ rest).head?, c.isDigit = false ∧ c ≠ '.' := by
  intro c next
  cases exponent with
  | none => exact ⟨(delimiter_ends_number rest delimited c next).1,
      (delimiter_ends_number rest delimited c next).2.1⟩
  | some e =>
      cases next
      decide

theorem fraction_ends_digits (delimited : Delimited rest) :
    ∀ c ∈ (fractionPart fraction ++ (exponentPart exponent ++ rest)).head?, c.isDigit = false := by
  intro c next
  cases fraction with
  | none => exact (exponent_ends_digits rest exponent delimited c next).1
  | some places =>
      cases next
      rfl

theorem read_exponent_digits (e : Int) (delimited : Delimited rest) :
    readExponentDigits ((if e < 0 then '-' else '+') :: (decimalDigits e.natAbs ++ rest)) =
      some (some e, rest) := by
  have taken := take_digits (decimalDigits e.natAbs) rest (decimal_digits_are_digits _)
    fun c next => (delimiter_ends_number rest delimited c next).1
  by_cases below : e < 0
  · simp only [readExponentDigits, if_pos below, readExponentSign, taken, Option.map_some,
      digits_value_of_digits, if_true]
    have sign : -(e.natAbs : Int) = e := by omega
    rw [sign]
  · simp only [readExponentDigits, if_neg below, readExponentSign, taken, Option.map_some,
      digits_value_of_digits]
    have sign : (e.natAbs : Int) = e := by omega
    rw [if_neg (by decide), sign]

theorem read_exponent (delimited : Delimited rest) :
    readExponent (exponentPart exponent ++ rest) = some (exponent, rest) := by
  cases exponent with
  | some e => exact read_exponent_digits rest e delimited
  | none =>
      cases rest with
      | nil => rfl
      | cons c tail =>
          rcases delimited c rfl with rfl | rfl | rfl
          · rfl
          · rfl
          · rfl

theorem read_fraction (digits : ∀ places ∈ fraction, AreDigits places) (delimited : Delimited rest) :
    readFraction (fractionPart fraction ++ (exponentPart exponent ++ rest)) =
      some (fraction, exponentPart exponent ++ rest) := by
  have ends := exponent_ends_digits rest exponent delimited
  cases fraction with
  | some places =>
      have taken := take_digits places (exponentPart exponent ++ rest) (digits places rfl) fun c next =>
        (ends c next).1
      exact congrArg (Option.map fun taken => (some taken.1, taken.2)) taken
  | none =>
      show readFraction (exponentPart exponent ++ rest) = some (none, exponentPart exponent ++ rest)
      cases following : exponentPart exponent ++ rest with
      | nil => rfl
      | cons c tail =>
          rw [following] at ends
          rw [readFraction.eq_def]
          split
          · rename_i point
            cases point
            exact absurd rfl (ends '.' rfl).2
          · rfl

end Parts

-- The text of a number without its sign: digits, digits after a point, and an exponent.
structure Numeral where
  whole : List Char
  fraction : Option (List Char)
  exponent : Option Int
  digits : AreDigits whole
  plain : hasExtraZero whole = false
  places : ∀ places ∈ fraction, AreDigits places

namespace Numeral

def text (numeral : Numeral) : List Char :=
  numeral.whole ++ (fractionPart numeral.fraction ++ exponentPart numeral.exponent)

def value (numeral : Numeral) (negative : Bool) : Json :=
  numberOf negative numeral.whole numeral.fraction numeral.exponent

def ofNat (n : Nat) : Numeral :=
  ⟨decimalDigits n, none, none, decimal_digits_are_digits n, digits_without_extra_zero n, nofun⟩

end Numeral

section Numerals

variable (numeral : Numeral) (negative : Bool) (rest : List Char)

theorem numeral_magnitude (delimited : Delimited rest) :
    readMagnitude negative (numeral.text ++ rest) = some (numeral.value negative, rest) := by
  have taken := take_digits numeral.whole _ numeral.digits
    (fraction_ends_digits rest numeral.fraction numeral.exponent delimited)
  have fractionRead := read_fraction rest numeral.fraction numeral.exponent numeral.places delimited
  have exponentRead := read_exponent rest numeral.exponent delimited
  simp [readMagnitude, Numeral.text, Numeral.value, taken, numeral.plain, fractionRead, exponentRead]

theorem numeral_starts : ∃ c tail, numeral.text = c :: tail ∧ c.isDigit = true := by
  cases whole : numeral.whole with
  | nil => exact absurd whole numeral.digits.some
  | cons c tail =>
      refine ⟨c, tail ++ (fractionPart numeral.fraction ++ exponentPart numeral.exponent), ?_, ?_⟩
      · rw [Numeral.text, whole]
        rfl
      · exact numeral.digits.all c (by simp [whole])

theorem numeral_reads (delimited : Delimited rest) :
    readNumber (signedText negative numeral.text ++ rest) = some (numeral.value negative, rest) := by
  have magnitude := numeral_magnitude numeral negative rest delimited
  cases negative with
  | true => exact magnitude
  | false =>
      obtain ⟨c, tail, text, digit⟩ := numeral_starts numeral
      rw [← magnitude, signedText, if_neg (by decide), text]
      rw [readNumber.eq_def]
      split
      · rename_i minus
        cases minus
        cases digit
      · rfl

theorem whole_numeral (n : Nat) : (Numeral.ofNat n).text = decimalDigits n ∧
    (Numeral.ofNat n).value negative = .whole negative n := by
  refine ⟨List.append_nil _, ?_⟩
  exact congrArg (Json.whole negative) (digits_value_of_digits n)

end Numerals

section Reals

variable (d : Decimal)

theorem reduced_unpadded (reduced : d.IsReduced) : Decimal.reduced d.coefficient d.exponent = d := by
  have unpadded := reduced_padded d 0 reduced
  rwa [Nat.pow_zero, Nat.mul_one, Int.natCast_zero, Int.sub_zero] at unpadded

theorem fraction_positive (reduced : d.IsReduced) (below : d.exponent < 0) : 0 < d.coefficient := by
  rcases reduced with whole | rfl
  · omega
  · exact absurd below (by decide)

theorem padded_digits_plain (reduced : d.IsReduced) :
    hasExtraZero (d.digits ++ List.replicate d.exponent.toNat '0') = false := by
  have some : d.digits ≠ [] := (decimal_digits_are_digits d.coefficient).some
  rcases reduced with whole | rfl
  · refine no_extra_zero _ ?_
    rw [List.head?_append_of_ne_nil _ some]
    exact first_digit_nonzero d.coefficient (by omega)
  · rfl

theorem whole_real_numeral (reduced : d.IsReduced) (whole : 0 ≤ d.exponent) : ∃ numeral : Numeral,
    numeral.text = d.digits ++ (List.replicate d.exponent.toNat '0' ++ Json.realLayout.wholeMark) ∧
      ∀ negative, numeral.value negative = .real negative d := by
  have digits : AreDigits (d.digits ++ List.replicate d.exponent.toNat '0') := by
    refine ⟨List.append_ne_nil_of_left_ne_nil (decimal_digits_are_digits d.coefficient).some _,
      fun c member => ?_⟩
    rcases List.mem_append.mp member with digit | zero
    · exact (decimal_digits_are_digits d.coefficient).all c digit
    · exact zeros_are_digits _ c zero
  have places : ∀ places ∈ some ['0'], AreDigits places := by
    rintro _ ⟨⟩
    exact zero_is_digits
  refine ⟨⟨d.digits ++ List.replicate d.exponent.toNat '0', some ['0'], none, digits,
    padded_digits_plain d reduced, places⟩, List.append_assoc .., fun negative => ?_⟩
  have value : digitsValue (d.digits ++ List.replicate d.exponent.toNat '0' ++ ['0']) =
      d.coefficient * 10 ^ (d.exponent.toNat + 1) := by
    rw [List.append_assoc, ← List.replicate_succ', digits_value_append_zeros, Decimal.digits,
      digits_value_of_digits]
  have exponent : (0 : Int) - (1 : Nat) = d.exponent - (d.exponent.toNat + 1 : Nat) := by omega
  show Json.real negative (Decimal.reduced
    (digitsValue (d.digits ++ List.replicate d.exponent.toNat '0' ++ ['0']))
    ((0 : Int) - (1 : Nat))) = _
  rw [value, exponent, reduced_padded d _ reduced]

theorem pointed_numeral (reduced : d.IsReduced) (whole places : List Char) (exponent : Option Int)
    (digits : AreDigits whole) (plain : hasExtraZero whole = false) (decimals : AreDigits places)
    (value : digitsValue (whole ++ places) = d.coefficient)
    (scaled : exponent.getD 0 - (places.length : Int) = d.exponent) : ∃ numeral : Numeral,
    numeral.text = whole ++ '.' :: (places ++ exponentPart exponent) ∧
      ∀ negative, numeral.value negative = .real negative d := by
  refine ⟨⟨whole, some places, exponent, digits, plain, ?_⟩, rfl, fun negative => ?_⟩
  · rintro _ ⟨⟩
    exact decimals
  · show Json.real negative (Decimal.reduced (digitsValue (whole ++ places))
      (exponent.getD 0 - (places.length : Int))) = _
    rw [value, scaled, reduced_unpadded d reduced]

theorem split_numeral (reduced : d.IsReduced) (below : d.exponent < 0)
    (places : (-d.exponent).toNat < d.digits.length) :
    ∃ numeral : Numeral, numeral.text = d.digits.take (d.digits.length - (-d.exponent).toNat) ++
        '.' :: d.digits.drop (d.digits.length - (-d.exponent).toNat) ∧
      ∀ negative, numeral.value negative = .real negative d := by
  have own : AreDigits d.digits := decimal_digits_are_digits d.coefficient
  have first := first_digit_nonzero d.coefficient (fraction_positive d reduced below)
  generalize split : d.digits.length - (-d.exponent).toNat = count
  have whole : AreDigits (d.digits.take count) := by
    refine ⟨?_, fun c member => own.all c (List.mem_of_mem_take member)⟩
    rw [Ne, List.take_eq_nil_iff]
    rintro (none | empty)
    · omega
    · exact own.some empty
  have decimals : AreDigits (d.digits.drop count) := by
    refine ⟨?_, fun c member => own.all c (List.mem_of_mem_drop member)⟩
    rw [Ne, List.drop_eq_nil_iff]
    omega
  have plain : hasExtraZero (d.digits.take count) = false := by
    refine no_extra_zero _ fun c member => first c ?_
    rw [List.head?_take] at member
    split_ifs at member
    · cases member
    · exact member
  have value : digitsValue (d.digits.take count ++ d.digits.drop count) = d.coefficient := by
    rw [List.take_append_drop, Decimal.digits, digits_value_of_digits]
  have scaled : (none : Option Int).getD 0 - ((d.digits.drop count).length : Int) = d.exponent := by
    rw [List.length_drop, Option.getD_none]
    omega
  have numeral := pointed_numeral d reduced _ _ none whole plain decimals value scaled
  rwa [exponentPart, Option.map_none, Option.getD_none, List.append_nil] at numeral

theorem padded_numeral (reduced : d.IsReduced) (below : d.exponent < 0)
    (places : ¬ (-d.exponent).toNat < d.digits.length) : ∃ numeral : Numeral,
    numeral.text = '0' :: '.' ::
      (List.replicate ((-d.exponent).toNat - d.digits.length) '0' ++ d.digits) ∧
      ∀ negative, numeral.value negative = .real negative d := by
  have own : AreDigits d.digits := decimal_digits_are_digits d.coefficient
  generalize missing : (-d.exponent).toNat - d.digits.length = count
  have decimals : AreDigits (List.replicate count '0' ++ d.digits) := by
    refine ⟨List.append_ne_nil_of_right_ne_nil _ own.some, fun c member => ?_⟩
    rcases List.mem_append.mp member with zero | digit
    · exact zeros_are_digits _ c zero
    · exact own.all c digit
  have value : digitsValue (['0'] ++ (List.replicate count '0' ++ d.digits)) = d.coefficient := by
    have zeros := digits_value_after_zeros d.digits (count + 1)
    rw [List.replicate_succ] at zeros
    exact zeros.trans (digits_value_of_digits d.coefficient)
  have scaled : (none : Option Int).getD 0 - ((List.replicate count '0' ++ d.digits).length : Int) =
      d.exponent := by
    rw [List.length_append, List.length_replicate, Option.getD_none]
    omega
  have numeral := pointed_numeral d reduced ['0'] _ none zero_is_digits rfl decimals value scaled
  rwa [exponentPart, Option.map_none, Option.getD_none, List.append_nil] at numeral

theorem positional_numeral (reduced : d.IsReduced) : ∃ numeral : Numeral,
    numeral.text = Json.realLayout.positionalText d ∧
      ∀ negative, numeral.value negative = .real negative d := by
  simp only [DecimalLayout.positionalText]
  split_ifs with whole places
  · exact whole_real_numeral d reduced whole
  · exact split_numeral d reduced (not_le.mp whole) places
  · exact padded_numeral d reduced (not_le.mp whole) places

theorem scientific_numeral (reduced : d.IsReduced) : ∃ numeral : Numeral,
    numeral.text = DecimalLayout.scientificText d ∧
      ∀ negative, numeral.value negative = .real negative d := by
  have own := decimal_digits_are_digits d.coefficient
  have value : digitsValue d.digits = d.coefficient := digits_value_of_digits d.coefficient
  have leading : d.leadingExponent = d.exponent + d.digits.length - 1 := rfl
  rw [DecimalLayout.scientificText]
  split
  · rename_i none
    exact absurd none own.some
  · rename_i digit single
    have own : AreDigits [digit] := single ▸ decimal_digits_are_digits d.coefficient
    refine ⟨⟨[digit], none, some d.leadingExponent, own, single_digit_plain digit, nofun⟩, rfl,
      fun negative => ?_⟩
    have exponent : d.leadingExponent - (0 : Nat) = d.exponent := by
      rw [leading, single, List.length_singleton]
      omega
    show Json.real negative (Decimal.reduced (digitsValue ([digit] ++ []))
      (d.leadingExponent - (0 : Nat))) = _
    rw [List.append_nil, ← single, value, exponent, reduced_unpadded d reduced]
  · rename_i digit others more several
    have own : ∀ c ∈ digit :: others, c.isDigit = true :=
      several ▸ (decimal_digits_are_digits d.coefficient).all
    have first : AreDigits [digit] := ⟨by simp, fun c member => own c (by simp_all)⟩
    have rest : AreDigits others := ⟨more, fun c member => own c (List.mem_cons_of_mem _ member)⟩
    have scaled : (some d.leadingExponent).getD 0 - (others.length : Int) = d.exponent := by
      rw [Option.getD_some, leading, several, List.length_cons]
      omega
    rw [several] at value
    exact pointed_numeral d reduced [digit] others (some d.leadingExponent) first
      (single_digit_plain digit) rest value scaled

theorem real_numeral (reduced : d.IsReduced) : ∃ numeral :
    Numeral, numeral.text = Json.realLayout.text d ∧
    ∀ negative, numeral.value negative = .real negative d := by
  rw [DecimalLayout.text]
  split
  · exact positional_numeral d reduced
  · exact scientific_numeral d reduced

end Reals

end TensorGraph
