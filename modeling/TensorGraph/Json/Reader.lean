import TensorGraph.Json.Basic

set_option autoImplicit false

namespace TensorGraph

def isJsonBlank (c : Char) : Bool := c == ' ' || c == '\n' || c == '\t' || c == '\r'

def skipBlanks (text : List Char) : List Char := text.dropWhile isJsonBlank

def hexValue? (c : Char) : Option Nat :=
  if '0' ≤ c ∧ c ≤ '9' then some (c.toNat - 48)
  else if 'a' ≤ c ∧ c ≤ 'f' then some (c.toNat - 87)
  else if 'A' ≤ c ∧ c ≤ 'F' then some (c.toNat - 55)
  else none

def hexNumber? (digits : List Char) : Option Nat :=
  digits.foldlM (fun n c => (hexValue? c).map (16 * n + ·)) 0

-- A piece of a string: a character, or the 16-bit unit that an escape gives.
inductive StringUnit where
  | char (c : Char)
  | code (n : Nat)
deriving DecidableEq, Repr

def letterEscape? (c : Char) : Option Char :=
  if c = '"' ∨ c = '\\' ∨ c = '/' then some c
  else if c = 'b' then some '\x08'
  else if c = 'f' then some '\x0c'
  else if c = 'n' then some '\n'
  else if c = 'r' then some '\r'
  else if c = 't' then some '\t'
  else none

-- The rest of a string after its opening quote, and what follows the closing one.
def scanUnits : List Char → Option (List StringUnit × List Char)
  | [] => none
  | '"' :: rest => some ([], rest)
  | '\\' :: 'u' :: a :: b :: c :: d :: rest =>
      match hexNumber? [a, b, c, d], scanUnits rest with
      | some n, some (units, rest) => some (.code n :: units, rest)
      | _, _ => none
  | '\\' :: letter :: rest =>
      match letterEscape? letter, scanUnits rest with
      | some c, some (units, rest) => some (.char c :: units, rest)
      | _, _ => none
  | c :: rest =>
      if c.toNat < 32 then none
      else
        match scanUnits rest with
        | some (units, rest) => some (.char c :: units, rest)
        | none => none

def isHighSurrogate (n : Nat) : Bool := decide (0xd800 ≤ n) && decide (n < 0xdc00)

def isLowSurrogate (n : Nat) : Bool := decide (0xdc00 ≤ n) && decide (n < 0xe000)

-- Surrogates become characters in pairs only.
def joinUnits : List StringUnit → Option (List Char)
  | [] => some []
  | .char c :: rest => (joinUnits rest).map (c :: ·)
  | .code high :: .code low :: rest =>
      if isHighSurrogate high then
        if isLowSurrogate low then
          (joinUnits rest).map (Char.ofNat (0x10000 + (high - 0xd800) * 0x400 + (low - 0xdc00)) :: ·)
        else none
      else if isLowSurrogate high then none
      else (joinUnits (.code low :: rest)).map (Char.ofNat high :: ·)
  | .code n :: rest =>
      if isHighSurrogate n || isLowSurrogate n then none else (joinUnits rest).map (Char.ofNat n :: ·)

def readString (text : List Char) : Option (Option String × List Char) :=
  (scanUnits text).map fun scanned => ((joinUnits scanned.1).map String.ofList, scanned.2)

def digitsValue (digits : List Char) : Nat := digits.foldl (fun n c => 10 * n + (c.toNat - 48)) 0

-- The digits at the front, of which there has to be one.
def takeDigits (text : List Char) : Option (List Char × List Char) :=
  let digits := text.takeWhile Char.isDigit
  if digits.isEmpty then none else some (digits, text.dropWhile Char.isDigit)

-- The digits after a point; nothing when there is no point.
def readFraction : List Char → Option (Option (List Char) × List Char)
  | '.' :: rest => (takeDigits rest).map fun taken => (some taken.1, taken.2)
  | text => some (none, text)

def readExponentSign : List Char → Bool × List Char
  | '-' :: rest => (true, rest)
  | '+' :: rest => (false, rest)
  | text => (false, text)

def readExponentDigits (text : List Char) : Option (Option Int × List Char) :=
  let sign := readExponentSign text
  (takeDigits sign.2).map fun taken =>
    let size : Int := digitsValue taken.1
    (some (if sign.1 then -size else size), taken.2)

def readExponent : List Char → Option (Option Int × List Char)
  | 'e' :: rest => readExponentDigits rest
  | 'E' :: rest => readExponentDigits rest
  | text => some (none, text)

def hasExtraZero : List Char → Bool
  | '0' :: _ :: _ => true
  | _ => false

-- The number that the parts of a literal stand for.
def numberOf (negative : Bool) (whole : List Char) (fraction : Option (List Char))
    (exponent : Option Int) : Json :=
  match fraction, exponent with
  | none, none => .whole negative (digitsValue whole)
  | _, _ =>
      let places := fraction.getD []
      .real negative (Decimal.reduced (digitsValue (whole ++ places)) (exponent.getD 0 - places.length))

def readMagnitude (negative : Bool) (text : List Char) : Option (Json × List Char) := do
  let (whole, rest) ← takeDigits text
  if hasExtraZero whole then none
  else
    let (fraction, rest) ← readFraction rest
    let (exponent, rest) ← readExponent rest
    some (numberOf negative whole fraction exponent, rest)

def readNumber : List Char → Option (Json × List Char)
  | '-' :: rest => readMagnitude true rest
  | text => readMagnitude false text

namespace Json

mutual

-- A value at the front of a text, blanks before it allowed.
def readValue : Nat → List Char → Option (Json × List Char)
  | 0, _ => none
  | fuel + 1, text =>
      match skipBlanks text with
      | 'n' :: 'u' :: 'l' :: 'l' :: rest => some (.null, rest)
      | 't' :: 'r' :: 'u' :: 'e' :: rest => some (.bool true, rest)
      | 'f' :: 'a' :: 'l' :: 's' :: 'e' :: rest => some (.bool false, rest)
      | '"' :: rest => (readString rest).map fun read => (.string read.1, read.2)
      | '[' :: rest =>
          match skipBlanks rest with
          | ']' :: rest => some (.array [], rest)
          | rest => (readItems fuel rest).map fun read => (.array read.1, read.2)
      | '\x7b' :: rest =>
          match skipBlanks rest with
          | '\x7d' :: rest => some (.object [], rest)
          | rest => (readFields fuel rest).map fun read => (.object read.1, read.2)
      | text => readNumber text

-- At least one item, up to the closing bracket.
def readItems : Nat → List Char → Option (List Json × List Char)
  | 0, _ => none
  | fuel + 1, text =>
      match readValue fuel text with
      | none => none
      | some (item, rest) =>
          match skipBlanks rest with
          | ']' :: rest => some ([item], rest)
          | ',' :: rest => (readItems fuel rest).map fun read => (item :: read.1, read.2)
          | _ => none

-- At least one field, up to the closing brace.
def readFields : Nat → List Char → Option (List (Option String × Json) × List Char)
  | 0, _ => none
  | fuel + 1, text =>
      match skipBlanks text with
      | '"' :: rest =>
          match readString rest with
          | none => none
          | some (key, rest) =>
              match skipBlanks rest with
              | ':' :: rest =>
                  match readValue fuel rest with
                  | none => none
                  | some (value, rest) =>
                      match skipBlanks rest with
                      | '\x7d' :: rest => some ([(key, value)], rest)
                      | ',' :: rest => (readFields fuel rest).map fun read =>
                          ((key, value) :: read.1, read.2)
                      | _ => none
              | _ => none
      | _ => none

end

-- The value that a text holds, with nothing but blanks around it. Each level of a value takes a
-- character.
def read? (text : String) : Option Json :=
  match readValue (2 * text.toList.length + 2) text.toList with
  | some (value, rest) => if (skipBlanks rest).isEmpty then some value else none
  | none => none

end Json

end TensorGraph
