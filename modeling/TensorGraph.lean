import TensorGraph.Number.Extent
import TensorGraph.Number.Rounding
import TensorGraph.Number.Decimal
import TensorGraph.Number.Binary32
import TensorGraph.Shape.Basic
import TensorGraph.Shape.Window
import TensorGraph.Shape.Concat
import TensorGraph.Shape.Slice
import TensorGraph.Shape.Rearrange
import TensorGraph.Types.Element
import TensorGraph.Types.Tensor
import TensorGraph.Types.Pool
import TensorGraph.Graph.Edge
import TensorGraph.Graph.Variable
import TensorGraph.Operator.Basic
import TensorGraph.Operator.Pins
import TensorGraph.Operator.Check
import TensorGraph.Graph.Node
import TensorGraph.Graph.Function
import TensorGraph.Graph.Naming
import TensorGraph.Graph.Fault
import TensorGraph.Graph.Scope
import TensorGraph.Graph.Pending
import TensorGraph.Graph.Walk
import TensorGraph.Graph.Acyclic
import TensorGraph.Graph.Verify
import TensorGraph.Graph.Journal
import TensorGraph.Export.Listing
import TensorGraph.Export.Palette
import TensorGraph.Export.Record
import TensorGraph.Export.Drawing
import TensorGraph.Layer.Basic
import TensorGraph.Layer.Draft
import TensorGraph.Settings.Blank
import TensorGraph.Settings.Basic
import TensorGraph.Network.Basic
import TensorGraph.Network.Build
import TensorGraph.Network.Clone
import TensorGraph.Network.Verify
import TensorGraph.Network.Overview
import TensorGraph.Network.Export
import TensorGraph.Network.Action
import TensorGraph.Json.Basic
import TensorGraph.Json.Writer
import TensorGraph.Json.Reader
import TensorGraph.Json.Access
import TensorGraph.Stored.Types
import TensorGraph.Stored.Graph
import TensorGraph.Stored.Operator
import TensorGraph.Proofs.Copies
import TensorGraph.Proofs.Interning
import TensorGraph.Proofs.PoolHistory
import TensorGraph.Proofs.Changes
import TensorGraph.Proofs.Representation
import TensorGraph.Proofs.Cycles
import TensorGraph.Proofs.Verification
import TensorGraph.Proofs.Cloning
import TensorGraph.Proofs.Continuity
import TensorGraph.Proofs.Naming
import TensorGraph.Proofs.Stems
import TensorGraph.Proofs.NameSupply
import TensorGraph.Proofs.NameHistory
import TensorGraph.Proofs.Ledger
import TensorGraph.Proofs.Building
import TensorGraph.Proofs.Duplication
import TensorGraph.Proofs.Construction
import TensorGraph.Proofs.Persistence
import TensorGraph.Proofs.Renumbering
import TensorGraph.Proofs.CopyVerification
import TensorGraph.Proofs.Violations
import TensorGraph.Proofs.Acceptance
import TensorGraph.Proofs.Drafting
import TensorGraph.Proofs.Rebuilding
import TensorGraph.Proofs.Rewiring
import TensorGraph.Proofs.Atomicity
import TensorGraph.Proofs.PoolContents
import TensorGraph.Proofs.Quantization
import TensorGraph.Proofs.Origins
import TensorGraph.Proofs.Demands
import TensorGraph.Proofs.StrictOperators
import TensorGraph.Proofs.StrictFunctions
import TensorGraph.Proofs.StrictLayers
import TensorGraph.Proofs.StrictRequests
import TensorGraph.Proofs.FailedClones
import TensorGraph.Proofs.Erasure
import TensorGraph.Proofs.Walks
import TensorGraph.Proofs.Windows
import TensorGraph.Proofs.ShownTypes
import TensorGraph.Proofs.Stacking
import TensorGraph.Proofs.ElementCounts
import TensorGraph.Proofs.ParameterSizes
import TensorGraph.Proofs.Growth
import TensorGraph.Proofs.ArrowTexts
import TensorGraph.Proofs.FunctionDrawings
import TensorGraph.Proofs.Overviews
import TensorGraph.Proofs.Plans
import TensorGraph.Proofs.Additions
import TensorGraph.Proofs.Provisions
import TensorGraph.Proofs.LayerForms
import TensorGraph.Proofs.Renamings
import TensorGraph.Proofs.Independence
import TensorGraph.Proofs.Loops
import TensorGraph.Proofs.MarkedSearches
import TensorGraph.Proofs.Redirections
import TensorGraph.Proofs.Visits
import TensorGraph.Proofs.Announcements
import TensorGraph.Proofs.Journals
import TensorGraph.Proofs.NearestNumbers
import TensorGraph.Proofs.ShortestDecimals
import TensorGraph.Proofs.NumberTexts
import TensorGraph.Proofs.JsonTexts
import TensorGraph.Proofs.StoredForms
import TensorGraph.Proofs.StoredOperators
import TensorGraph.Proofs.ShapeChanges
import TensorGraph.Proofs.Transpositions
import TensorGraph.Proofs.Slices
import TensorGraph.Proofs.Unstacking
import TensorGraph.Proofs.CopyTexts
import TensorGraph.Proofs.Sizes
import TensorGraph.Proofs.EdgeResolution
import TensorGraph.Proofs.RecordLabels
import TensorGraph.Proofs.StackChecks
import TensorGraph.Proofs.DrawingTexts
import TensorGraph.Proofs.JsonFormats
