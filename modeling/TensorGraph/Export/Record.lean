set_option autoImplicit false

namespace TensorGraph

-- The characters that mean something inside the label of a record.
def recordPunctuation : List Char := ['"', '\x7b', '\x7d', '<', '>', '|', '\\']

def escapedChar (c : Char) : List Char :=
  if c = '\n' then ['\\', 'l'] else if recordPunctuation.contains c then ['\\', c] else [c]

-- A text for the inside of a label, each of its lines ended by a left-justified break.
def escaped (text : List Char) : List Char := text.flatMap escapedChar ++ ['\\', 'l']

def pinCell (pin : String) : List Char := '<' :: (pin.toList ++ '>' :: pin.toList)

def pinRow (pins : List String) : List Char :=
  '\x7b' :: (List.intercalate ['|'] (pins.map pinCell) ++ ['\x7d'])

-- A row of input pins, the text, and a row of output pins; a row without pins is left out.
def recordLabel (inputs : List String) (text : String) (outputs : List String) : List Char :=
  '\x7b' :: ((if inputs.isEmpty then [] else pinRow inputs ++ ['|']) ++
    '\x7b' :: (escaped text.toList ++ '\x7d' ::
      (if outputs.isEmpty then [] else '|' :: pinRow outputs)) ++ ['\x7d'])

def quotedChar (c : Char) : List Char := if c = '\\' ∨ c = '"' then ['\\', c] else [c]

def quoted (text : String) : String := String.ofList (text.toList.flatMap quotedChar)

end TensorGraph
