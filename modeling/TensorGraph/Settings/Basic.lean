import TensorGraph.Settings.Blank

set_option autoImplicit false

namespace TensorGraph

-- Whether a failed verification also reports the function in full, and where drawings go by default.
structure Settings where
  dumpsFailures : Bool := false
  drawingFolder : String := "."
deriving DecidableEq, Repr

namespace Settings

-- The spellings that turn an option on; only the case of ASCII letters is free.
def isOn (value : String) : Bool := ["1", "true", "yes", "on"].contains (trimmedText value).toLower

-- The settings that two optional texts stand for; a blank folder is no folder.
def ofTexts (dump folder : Option String) : Settings :=
  { dumpsFailures := (dump.map isOn).getD false
    drawingFolder :=
      match folder with
      | some value => if trimmedText value = "" then "." else trimmedText value
      | none => "." }

end Settings

end TensorGraph
