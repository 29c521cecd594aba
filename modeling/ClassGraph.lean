import ClassGraph.Command.Run
import ClassGraph.Graph.Request
import ClassGraph.Json.Reader
import ClassGraph.Main
import ClassGraph.Proofs.Diagram.BlockReader
import ClassGraph.Proofs.Diagram.Blocks
import ClassGraph.Proofs.Diagram.Connectors
import ClassGraph.Proofs.Diagram.Dot
import ClassGraph.Proofs.Diagram.Grouping
import ClassGraph.Proofs.Diagram.Permutation
import ClassGraph.Proofs.Diagram.SelfConnection
import ClassGraph.Proofs.Graph.Alike
import ClassGraph.Proofs.Graph.Cardinality
import ClassGraph.Proofs.Graph.Consistency
import ClassGraph.Proofs.Graph.Contest
import ClassGraph.Proofs.Graph.Contracts
import ClassGraph.Proofs.Graph.Creation
import ClassGraph.Proofs.Graph.Deletion
import ClassGraph.Proofs.Graph.DeletionOrder
import ClassGraph.Proofs.Graph.Descent
import ClassGraph.Proofs.Graph.Inside
import ClassGraph.Proofs.Graph.Layers
import ClassGraph.Proofs.Graph.Linking
import ClassGraph.Proofs.Graph.Numbering
import ClassGraph.Proofs.Graph.Roots
import ClassGraph.Proofs.Graph.Transience
import ClassGraph.Proofs.Graph.Unlinking
import ClassGraph.Proofs.Graph.Yield
import ClassGraph.Proofs.Instantiation.Accounts
import ClassGraph.Proofs.Instantiation.Cycles
import ClassGraph.Proofs.Instantiation.Externals
import ClassGraph.Proofs.Instantiation.Hierarchy
import ClassGraph.Proofs.Instantiation.Instances
import ClassGraph.Proofs.Instantiation.Numbered
import ClassGraph.Proofs.Instantiation.Search
import ClassGraph.Proofs.Instantiation.Substitution
import ClassGraph.Proofs.Instantiation.Violations
import ClassGraph.Proofs.Model.Json
import ClassGraph.Proofs.Model.Recording
import ClassGraph.Proofs.Registry.Growth
import ClassGraph.Proofs.Registry.Order
import ClassGraph.Proofs.Report.Impact
import ClassGraph.Proofs.Report.NoImpact
import ClassGraph.Proofs.Source.Accessor
import ClassGraph.Proofs.Source.Annotation
import ClassGraph.Proofs.Source.FunctionType
import ClassGraph.Proofs.Source.InferredType
import ClassGraph.Proofs.Source.Parameters
import ClassGraph.Proofs.Source.PropertyAnnotation
import ClassGraph.Proofs.Source.Record
import ClassGraph.Proofs.Source.Supertype
import ClassGraph.Proofs.Source.TypeParameter
import ClassGraph.Proofs.Text.Joined
