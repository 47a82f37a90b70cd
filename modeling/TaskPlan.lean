import TaskPlan.Text.Blank
import TaskPlan.Text.Digits
import TaskPlan.Text.Printable
import TaskPlan.Text.Quoted
import TaskPlan.Text.Runs
import TaskPlan.Text.Split
import TaskPlan.Text.Unicode.CaseFold
import TaskPlan.Text.Unicode.Classes
import TaskPlan.Text.Unicode.Letters
import TaskPlan.Text.Unicode.Marks
import TaskPlan.Text.Unicode.Scripts
import TaskPlan.Text.Unicode.Symbols
import TaskPlan.Digest.Sha256
import TaskPlan.Order.KeyMap
import TaskPlan.Order.SortedSet
import TaskPlan.Json.Basic
import TaskPlan.Json.Decode
import TaskPlan.Json.Double
import TaskPlan.Json.Parse
import TaskPlan.Json.Print
import TaskPlan.Json.Token
import TaskPlan.Yaml.Cursor
import TaskPlan.Yaml.Node
import TaskPlan.Yaml.Print
import TaskPlan.Yaml.Scalar
import TaskPlan.Yaml.Token
import TaskPlan.Yaml.Tree
import TaskPlan.Yaml.Value
import TaskPlan.Error
import TaskPlan.Time.Instant
import TaskPlan.Time.Offset
import TaskPlan.Pattern.Glob
import TaskPlan.Pattern.Regex.Basic
import TaskPlan.Pattern.Regex.Engine
import TaskPlan.Pattern.Regex.Parse
import TaskPlan.Pattern.Regex.Property
import TaskPlan.Shape.Basic
import TaskPlan.Shape.Check
import TaskPlan.KeyedBy.Basic
import TaskPlan.KeyedBy.Evaluate
import TaskPlan.Files.Tree
import TaskPlan.Context.Dockerfile
import TaskPlan.Context.Hasher
import TaskPlan.Task.Directive
import TaskPlan.Task.FreshId
import TaskPlan.Task.Node
import TaskPlan.Task.Worker
import TaskPlan.Job
import TaskPlan.TaskDescription.Build
import TaskPlan.TaskDescription.Shape
import TaskPlan.Graph.Basic
import TaskPlan.Graph.Closure
import TaskPlan.Graph.Cycle
import TaskPlan.TaskGraph
import TaskPlan.Index.Basic
import TaskPlan.Index.Cache
import TaskPlan.Reference.Placeholder
import TaskPlan.Reference.Template
import TaskPlan.Payload
import TaskPlan.Pipeline.Basic
import TaskPlan.Pipeline.Stage
import TaskPlan.Optimize.Basic
import TaskPlan.Optimize.Params
import TaskPlan.Optimize.Removal
import TaskPlan.Optimize.Replacement
import TaskPlan.Optimize.Standard
import TaskPlan.Optimize.Strategy
import TaskPlan.Verify.Basic
import TaskPlan.Verify.Standard
import TaskPlan.Config.Document
import TaskPlan.Config.Graph
import TaskPlan.Config.Load
import TaskPlan.Config.Parameters
import TaskPlan.Config.Run
import TaskPlan.Kind.Basic
import TaskPlan.Generation.Basic
import TaskPlan.Proofs.Index.Lookup
import TaskPlan.Proofs.Index.Asked
import TaskPlan.Proofs.Index.Session
import TaskPlan.Proofs.Reference.Template
import TaskPlan.Proofs.Reference.Placeholder
import TaskPlan.Proofs.Reference.Resolution
import TaskPlan.Proofs.Reference.Escaping
import TaskPlan.Proofs.Reference.Artifacts
import TaskPlan.Proofs.Text.Runs
import TaskPlan.Proofs.Time.Offset
import TaskPlan.Proofs.Order.Finite
import TaskPlan.Proofs.Graph.Dependency
import TaskPlan.Proofs.Graph.Layered
import TaskPlan.Proofs.Graph.Countdown
import TaskPlan.Proofs.Graph.Layers
import TaskPlan.Proofs.Graph.Closure
import TaskPlan.Proofs.Graph.Traversal
import TaskPlan.Proofs.Graph.SearchBack
import TaskPlan.Proofs.Graph.Cycle
import TaskPlan.Proofs.Graph.Depth
import TaskPlan.Proofs.Task.Codec
import TaskPlan.Proofs.Context.Framing
import TaskPlan.Proofs.Context.Template
import TaskPlan.Proofs.Context.Substitution
import TaskPlan.Proofs.Context.Dockerfile
import TaskPlan.Proofs.Json.Fields
import TaskPlan.Proofs.Json.Inside
import TaskPlan.Proofs.Shape.Containers
import TaskPlan.Proofs.Shape.Completes
import TaskPlan.Proofs.Shape.Conforms
import TaskPlan.Proofs.Shape.Settled
import TaskPlan.Proofs.Shape.Filled
import TaskPlan.Proofs.Shape.Places
import TaskPlan.Proofs.Shape.Again
import TaskPlan.Proofs.Shape.Closest
import TaskPlan.Proofs.Shape.Reports
import TaskPlan.Proofs.KeyedBy.Rules
import TaskPlan.Proofs.KeyedBy.Resolve
import TaskPlan.Proofs.TaskDescription.Resolved
import TaskPlan.Proofs.TaskDescription.Sound
import TaskPlan.Proofs.TaskDescription.Again
import TaskPlan.Proofs.Pipeline.Streams
import TaskPlan.Proofs.TaskGraph.Sound
import TaskPlan.Proofs.TaskGraph.Subgraph
import TaskPlan.Proofs.Optimize.Removal
import TaskPlan.Proofs.Optimize.Replacement
import TaskPlan.Proofs.Optimize.Settlement
import TaskPlan.Proofs.Optimize.Reachable
import TaskPlan.Proofs.Optimize.Decisions
import TaskPlan.Proofs.Optimize.Standard
import TaskPlan.Proofs.Optimize.Search
import TaskPlan.Proofs.Optimize.Rules
import TaskPlan.Proofs.Optimize.Run
import TaskPlan.Proofs.Optimize.Restriction
import TaskPlan.Proofs.Optimize.Again
import TaskPlan.Proofs.Optimize.Rejection
import TaskPlan.Proofs.Optimize.Queries
import TaskPlan.Proofs.Optimize.Rendering
import TaskPlan.Proofs.Optimize.Coverage
import TaskPlan.Proofs.Optimize.Leaves
import TaskPlan.Proofs.Generation.Submission
import TaskPlan.Proofs.TaskGraph.Codec
import TaskPlan.Proofs.Verify.Repeats
import TaskPlan.Proofs.Verify.Routes
import TaskPlan.Proofs.Verify.Symbols
import TaskPlan.Proofs.Verify.Tiers
import TaskPlan.Proofs.Generation.Kinds
import TaskPlan.Proofs.Job.Paths
import TaskPlan.Proofs.KeyedBy.InPlace
import TaskPlan.Proofs.KeyedBy.Order
import TaskPlan.Proofs.TaskDescription.AnyOrder
import TaskPlan.Proofs.Kind.Merge
import TaskPlan.Proofs.Pattern.Lawful
import TaskPlan.Proofs.Pattern.Spans
import TaskPlan.Proofs.Pattern.Closing
import TaskPlan.Proofs.Pattern.Reading
import TaskPlan.Proofs.Pattern.Standard
import TaskPlan.Proofs.KeyedBy.Anchored
import TaskPlan.Proofs.Job.InPlace
