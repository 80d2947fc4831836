import TensorGraph.Json.Basic

set_option autoImplicit false

namespace TensorGraph

def hexDigit (n : Nat) : Char := if n < 10 then Char.ofNat (48 + n) else Char.ofNat (87 + n)

-- Quotes, backslashes and control characters are escaped, the common ones by a letter.
def jsonChar (c : Char) : List Char :=
  if c = '"' then ['\\', '"']
  else if c = '\\' then ['\\', '\\']
  else if c = '\n' then ['\\', 'n']
  else if c = '\r' then ['\\', 'r']
  else if c = '\t' then ['\\', 't']
  else if c = '\x08' then ['\\', 'b']
  else if c = '\x0c' then ['\\', 'f']
  else if c.toNat < 32 then ['\\', 'u', '0', '0', hexDigit (c.toNat / 16), hexDigit (c.toNat % 16)]
  else [c]

def jsonString (text : String) : List Char := '"' :: (text.toList.flatMap jsonChar ++ ['"'])

def signedText (negative : Bool) (digits : List Char) : List Char :=
  if negative then '-' :: digits else digits

namespace Json

mutual

def write : Json → List Char
  | .null => ['n', 'u', 'l', 'l']
  | .bool true => ['t', 'r', 'u', 'e']
  | .bool false => ['f', 'a', 'l', 's', 'e']
  | .whole negative n => signedText negative (decimalDigits n)
  | .real negative d => signedText negative (realLayout.text d)
  | .string text => jsonString (text.getD "")
  | .array items => '[' :: (writeItems items ++ [']'])
  | .object fields => '\x7b' :: (writeFields fields ++ ['\x7d'])

def writeItems : List Json → List Char
  | [] => []
  | [item] => write item
  | item :: rest => write item ++ ',' :: writeItems rest

def writeFields : List (Option String × Json) → List Char
  | [] => []
  | [(key, value)] => jsonString (key.getD "") ++ ':' :: write value
  | (key, value) :: rest => jsonString (key.getD "") ++ ':' :: (write value ++ ',' :: writeFields rest)

end

def compact (value : Json) : String := String.ofList value.write

end Json

end TensorGraph
