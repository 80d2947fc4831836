import TensorGraph.Network.Overview
import TensorGraph.Settings.Basic

set_option autoImplicit false

namespace TensorGraph

structure WrittenFile where
  path : String
  contents : String
deriving DecidableEq, Repr

-- A path below a folder; a folder that ends in a slash gets no second one.
def joinPath (folder name : String) : String :=
  if folder.toList.getLast? = some '/' then folder ++ name else folder ++ "/" ++ name

def Function.drawingFile (function : Function) : String := "dotty_graph_dump_" ++ function.name ++ ".dot"

namespace Network

def drawingFile : String := "dotty_graph_dump_module.dot"

-- The path asked for, or the default name in the folder of the settings.
def drawingPath (settings : Settings) (path : Option String) (name : String) : String :=
  path.getD (joinPath settings.drawingFolder name)

-- Writes a file. Whether that succeeds is up to the file system: `refused` is why it did not, if it did
-- not.
def write (network : Network) (subject : Subject) (path contents : String)
    (refused : Option WriteFault) :
    Outcome WrittenFile :=
  match refused with
  | some cause => (.error (.unwritable path cause), network)
  | none => (.ok ⟨path, contents⟩, network.report (.wroteGraph subject path))

def writeDrawing (settings : Settings) (network : Network) (path : Option String)
    (refused : Option WriteFault) :
    Outcome WrittenFile :=
  network.write .network (drawingPath settings path drawingFile) network.drawing.text refused

def writeFunctionDrawing (settings : Settings) (network : Network) (id : FunctionId)
    (path : Option String) (refused : Option WriteFault) : Outcome WrittenFile :=
  match network.function? id with
  | none => (.error (.unknownFunction id), network)
  | some function =>
      network.write .function (drawingPath settings path function.drawingFile)
        (network.scopeOf function).drawing.text refused

end Network

end TensorGraph
