import Jobflow.ByteSize
import Jobflow.Command.Arguments
import Jobflow.Command.Line
import Jobflow.Command.Program
import Jobflow.Command.Selection
import Jobflow.Command.Upload
import Jobflow.Command.Usage
import Jobflow.Definitions
import Jobflow.Definitions.Profile
import Jobflow.Description.Fields
import Jobflow.Description.File
import Jobflow.Description.Workflow
import Jobflow.Fault
import Jobflow.Files.FileTree
import Jobflow.Files.Path
import Jobflow.Files.Temporary
import Jobflow.Files.Zip
import Jobflow.Flow.Compile
import Jobflow.Flow.Condition
import Jobflow.Flow.Defect
import Jobflow.Flow.Graph
import Jobflow.Flow.Node
import Jobflow.Http
import Jobflow.Job
import Jobflow.Json
import Jobflow.KeyMap
import Jobflow.Log
import Jobflow.Logged
import Jobflow.Main
import Jobflow.Names
import Jobflow.Number.Binary64
import Jobflow.Number.Fixed
import Jobflow.Number.Round
import Jobflow.Number.Scientific
import Jobflow.Number.Shortest
import Jobflow.OrderedMap
import Jobflow.Project.Archive
import Jobflow.Project.Basic
import Jobflow.Project.Files
import Jobflow.Project.Module
import Jobflow.Project.Plan
import Jobflow.Project.Registry
import Jobflow.Proofs.Action
import Jobflow.Proofs.ByteSize
import Jobflow.Proofs.Command.Explanation
import Jobflow.Proofs.Command.Upload
import Jobflow.Proofs.Definitions
import Jobflow.Proofs.Files.Below
import Jobflow.Proofs.Files.FileTree
import Jobflow.Proofs.Files.Path
import Jobflow.Proofs.Files.Temporary
import Jobflow.Proofs.Flow.Collecting
import Jobflow.Proofs.Flow.Compile
import Jobflow.Proofs.Flow.Condition
import Jobflow.Proofs.Flow.Document
import Jobflow.Proofs.Flow.Graph
import Jobflow.Proofs.Flow.Layers
import Jobflow.Proofs.Flow.Notices
import Jobflow.Proofs.Flow.Scope
import Jobflow.Proofs.Flow.Shape
import Jobflow.Proofs.Flow.Validity
import Jobflow.Proofs.Job.Arguments
import Jobflow.Proofs.Json
import Jobflow.Proofs.KeyMap
import Jobflow.Proofs.Labels
import Jobflow.Proofs.Log
import Jobflow.Proofs.Logged
import Jobflow.Proofs.Names
import Jobflow.Proofs.Number.Decimal
import Jobflow.Proofs.Number.Exact
import Jobflow.Proofs.Number.Fixed
import Jobflow.Proofs.Number.Rounded
import Jobflow.Proofs.Number.Shortest
import Jobflow.Proofs.OrderedMap
import Jobflow.Proofs.Project.Archive
import Jobflow.Proofs.Project.Assembly
import Jobflow.Proofs.Project.Compile
import Jobflow.Proofs.Project.DerivedPath
import Jobflow.Proofs.Project.Registered
import Jobflow.Proofs.Project.Shadowing
import Jobflow.Proofs.Properties
import Jobflow.Proofs.Properties.Comments
import Jobflow.Proofs.Properties.Grouping
import Jobflow.Proofs.Properties.Leaves
import Jobflow.Proofs.Properties.RoundTrip
import Jobflow.Proofs.Server.NormalForm
import Jobflow.Proofs.Session.Agreement
import Jobflow.Proofs.Session.Batch
import Jobflow.Proofs.Session.Call
import Jobflow.Proofs.Session.Course
import Jobflow.Proofs.Session.Faults
import Jobflow.Proofs.Session.Frame
import Jobflow.Proofs.Session.History
import Jobflow.Proofs.Session.Identity
import Jobflow.Proofs.Session.Naming
import Jobflow.Proofs.Session.Opening
import Jobflow.Proofs.Session.Records
import Jobflow.Proofs.Session.Rejection
import Jobflow.Proofs.Session.Renewal
import Jobflow.Proofs.Session.Replies
import Jobflow.Proofs.Session.Rounds
import Jobflow.Proofs.Session.Saved
import Jobflow.Proofs.Session.Secrecy
import Jobflow.Proofs.Session.Senders
import Jobflow.Proofs.Session.Serving
import Jobflow.Proofs.Session.Sharing
import Jobflow.Proofs.Session.Trials
import Jobflow.Proofs.Session.Uploads
import Jobflow.Proofs.Session.Worker
import Jobflow.Proofs.Session.Workers
import Jobflow.Proofs.Settings.Lines
import Jobflow.Proofs.Settings.Loading
import Jobflow.Proofs.Settings.Options
import Jobflow.Proofs.Settings.Reading
import Jobflow.Proofs.Settings.RoundTrip
import Jobflow.Proofs.Settings.Writable
import Jobflow.Proofs.Settings.Written
import Jobflow.Proofs.Status.BadReplies
import Jobflow.Proofs.Status.Batches
import Jobflow.Proofs.Status.NoExecutions
import Jobflow.Proofs.Status.Outcomes
import Jobflow.Proofs.Status.Overview
import Jobflow.Proofs.Status.Query
import Jobflow.Proofs.Status.Rejected
import Jobflow.Proofs.Status.Reply
import Jobflow.Proofs.Status.Table
import Jobflow.Proofs.Status.Tally
import Jobflow.Proofs.Status.Targets
import Jobflow.Proofs.Status.Time
import Jobflow.Proofs.Text.Blank
import Jobflow.Proofs.Text.Digit
import Jobflow.Proofs.Text.Hex
import Jobflow.Proofs.Text.Lines
import Jobflow.Proofs.Text.Lowercase
import Jobflow.Proofs.Text.Pattern
import Jobflow.Proofs.Text.Search
import Jobflow.Proofs.Timestamp
import Jobflow.Proofs.Value
import Jobflow.Proofs.Workspace.Growth
import Jobflow.Proofs.Workspace.Loading
import Jobflow.Proofs.Yaml.Anchors
import Jobflow.Proofs.Yaml.Document
import Jobflow.Proofs.Yaml.Scalar
import Jobflow.Proofs.Yaml.Word
import Jobflow.Properties
import Jobflow.Properties.Load
import Jobflow.Properties.Reader
import Jobflow.PropertyFile
import Jobflow.Server.Address
import Jobflow.Server.Host
import Jobflow.Session.Alias
import Jobflow.Session.Answer
import Jobflow.Session.Api
import Jobflow.Session.Basic
import Jobflow.Session.Batch
import Jobflow.Session.Call
import Jobflow.Session.Login
import Jobflow.Session.Request
import Jobflow.Settings.Basic
import Jobflow.Settings.Reader
import Jobflow.Settings.Store
import Jobflow.Settings.Writer
import Jobflow.Status.Execution
import Jobflow.Status.Overview
import Jobflow.Status.Query
import Jobflow.Status.Table
import Jobflow.Status.Tally
import Jobflow.Status.Time
import Jobflow.Template
import Jobflow.Text.Blank
import Jobflow.Text.Cased
import Jobflow.Text.Cut
import Jobflow.Text.Digit
import Jobflow.Text.Hex
import Jobflow.Text.Integer
import Jobflow.Text.Lowercase
import Jobflow.Text.Pattern
import Jobflow.Text.Percent
import Jobflow.Text.Printable
import Jobflow.Text.Quoted
import Jobflow.Text.Utf8
import Jobflow.Timestamp
import Jobflow.Value
import Jobflow.Workflow
import Jobflow.Workflow.Plan
import Jobflow.Workspace.Basic
import Jobflow.Workspace.Parts
import Jobflow.Workspace.Projects
import Jobflow.World
import Jobflow.Yaml.Document
import Jobflow.Yaml.Resolve
import Jobflow.Yaml.Scalar
