import OpGraph.Main
import OpGraph.Builder.Workspace
import OpGraph.Graph.Evaluation
import OpGraph.Graph.Printing
import OpGraph.Proofs.Kernel.ReplaceSlice
import OpGraph.Proofs.Kernel.Convolution
import OpGraph.Proofs.Kernel.Dialects
import OpGraph.Proofs.Reading.Call
import OpGraph.Proofs.Operator.Refinement
import OpGraph.Proofs.Graph.Resolution
import OpGraph.Proofs.Graph.Traversal
import OpGraph.Proofs.Graph.Refinement
import OpGraph.Proofs.Operator.Dot
import OpGraph.Proofs.Operator.Slice
import OpGraph.Proofs.Graph.WellFormed
import OpGraph.Proofs.Graph.Evaluation
import OpGraph.Proofs.Description.Attributes
import OpGraph.Proofs.Description.Loading
import OpGraph.Proofs.Description.Evaluation
import OpGraph.Proofs.Description.Inference
import OpGraph.Builder.Session
import OpGraph.Proofs.Builder.Evaluation
import OpGraph.Proofs.Description.Building
import OpGraph.Proofs.CommandLine.Reporting
import OpGraph.Proofs.Builder.Inference
import OpGraph.Proofs.Operator.WindowSums
import OpGraph.Proofs.Builder.Outputs
import OpGraph.Proofs.Description.Translation
import OpGraph.Proofs.Operator.Layouts
import OpGraph.Proofs.Operator.SliceLaws
import OpGraph.Proofs.Operator.Instances
import OpGraph.Proofs.Builder.PostOrder
import OpGraph.Proofs.Template.Composition
import OpGraph.Proofs.Types.Intersection
import OpGraph.Proofs.Types.Bracketing
import OpGraph.Proofs.Types.ShapeText
import OpGraph.Proofs.Operator.Stages
import OpGraph.Proofs.Builder.NameTable
import OpGraph.Proofs.Types.PlainValues
import OpGraph.Proofs.Template.Setting
