set_option autoImplicit false

namespace TensorGraph

-- The FNV-1a hash of the UTF-8 form of a text, which is the same on every machine.
def textHash (text : String) : UInt64 :=
  (text.toList.flatMap String.utf8EncodeChar).foldl
    (fun hash byte => (hash ^^^ byte.toUInt64) * 0x100000001b3) 0xcbf29ce484222325

-- The entry of a palette that a key always gets.
def pickFrom? {α : Type} (palette : List α) (key : String) : Option α :=
  if palette.isEmpty then none else palette[(textHash key).toNat % palette.length]?

def nodeColors : List String :=
  ["AliceBlue", "CadetBlue1", "Coral", "DarkOliveGreen1", "DarkSeaGreen1", "GhostWhite", "Khaki1",
    "LavenderBlush1", "LemonChiffon1", "LightSkyBlue", "MistyRose1", "MistyRose2", "PaleTurquoise2",
    "PeachPuff1", "PowderBlue", "Salmon", "Thistle1", "Thistle3", "Wheat1", "Yellow2"]

def nodeColor (operatorName : String) : String := (pickFrom? nodeColors operatorName).getD "White"

end TensorGraph
