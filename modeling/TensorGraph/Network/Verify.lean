import TensorGraph.Export.Listing
import TensorGraph.Graph.Verify
import TensorGraph.Network.Basic
import TensorGraph.Settings.Basic

set_option autoImplicit false

namespace TensorGraph

namespace Network

def failureEvents (settings : Settings) (scope : Scope) (found : Violation) : List Event :=
  .verificationFailed scope.function.name found ::
    if settings.dumpsFailures then [.functionDump scope.function.name scope.dump] else []

def verifyOne (settings : Settings) (network : Network) (function : Function) : Outcome Unit :=
  match (network.scopeOf function).verify with
  | .ok _ => (.ok (), network)
  | .error found =>
      (.error (.violation found),
        { network with journal := network.journal ++
          failureEvents settings (network.scopeOf function) found })

def verifyEach (settings : Settings) (network : Network) : List Function → Outcome Unit
  | [] => (.ok (), network)
  | function :: rest =>
      match network.verifyOne settings function with
      | (.ok _, network) => network.verifyEach settings rest
      | (.error fault, network) => (.error fault, network)

def verify (settings : Settings) (network : Network) : Outcome Unit :=
  network.verifyEach settings network.functions

def verifyFunction (settings : Settings) (network : Network) (id : FunctionId) : Outcome Unit :=
  match network.function? id with
  | none => (.error (.unknownFunction id), network)
  | some function => network.verifyOne settings function

end Network

end TensorGraph
