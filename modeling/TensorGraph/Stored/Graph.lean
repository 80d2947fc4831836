import TensorGraph.Graph.Variable
import TensorGraph.Json.Format

set_option autoImplicit false

namespace TensorGraph

variable {J : Type} (format : JsonFormat J)

namespace Visibility

def ofTag? : String → Option Visibility
  | "Public" => some external
  | "Private" => some internal
  | _ => none

def toJson (visibility : Visibility) : J := format.text visibility.title

def ofJson? (value : J) : Option Visibility := (format.bareChoice? value).bind ofTag?

end Visibility

namespace Initializer

def toJson : Initializer → J
  | none => format.text "None"
  | broadcast value => format.tagged "Broadcast" (format.float value)
  | xavier fanIn => format.tagged "Xavier" (format.float fanIn)

def ofJson? (value : J) : Option Initializer :=
  match format.choice? value with
  | some ("None", payload) => if format.isBare payload then some none else Option.none
  | some ("Broadcast", some payload) => (format.float? payload).map broadcast
  | some ("Xavier", some payload) => (format.float? payload).map xavier
  | _ => Option.none

end Initializer

namespace Producer

def toJson : Producer → J
  | var id => format.tagged "Variable" (format.identifier id.index)
  | node id => format.tagged "Node" (format.identifier id.index)

def ofJson? (value : J) : Option Producer :=
  match format.choice? value with
  | some ("Variable", some payload) => (format.identifier? payload).map fun index => var ⟨index⟩
  | some ("Node", some payload) => (format.identifier? payload).map fun index => node ⟨index⟩
  | _ => none

end Producer

namespace Edge

def toJson (edge : Edge) : J :=
  format.record [("producer", edge.producer.toJson format), ("res_no", format.identifier edge.slot)]

def ofJson? (value : J) : Option Edge :=
  match format.allMembers? ["producer", "res_no"] value with
  | some [producer, slot] =>
      match Producer.ofJson? format producer, format.identifier? slot with
      | some producer, some slot => some ⟨producer, slot⟩
      | _, _ => none
  | _ => none

end Edge

end TensorGraph
