import Workflow.Action.Builtin
import Workflow.Action.Context
import Workflow.Action.Delay
import Workflow.Action.Execution
import Workflow.Action.Http
import Workflow.Action.Registry
import Workflow.Action.Result
import Workflow.Condition
import Workflow.Definition.Basic
import Workflow.Definition.Builder
import Workflow.Definition.Draft
import Workflow.Definition.Duration
import Workflow.Definition.File
import Workflow.Definition.Parser
import Workflow.Definition.Record
import Workflow.Definition.Timeout
import Workflow.Error.Basic
import Workflow.Error.Definition
import Workflow.Error.Evaluation
import Workflow.Error.Fault
import Workflow.Error.Named
import Workflow.Error.Step
import Workflow.Error.Transition
import Workflow.Event
import Workflow.Http.Address
import Workflow.Http.Basic
import Workflow.Http.Charset
import Workflow.Http.ContentType
import Workflow.Http.Deflated
import Workflow.Http.Host
import Workflow.Http.Label
import Workflow.Http.Percent
import Workflow.Http.Permitted
import Workflow.Http.Punycode
import Workflow.Http.Query
import Workflow.Http.Response
import Workflow.Instance.Basic
import Workflow.Instance.Filter
import Workflow.Instance.Record
import Workflow.Instance.Summary
import Workflow.Json.Reader
import Workflow.Json.Writer
import Workflow.Lifecycle
import Workflow.Log
import Workflow.Number.Binary64
import Workflow.Number.Numeral
import Workflow.Number.Shortest
import Workflow.Path
import Workflow.Proofs.Absorption
import Workflow.Proofs.Changes
import Workflow.Proofs.Course
import Workflow.Proofs.Governed
import Workflow.Proofs.Interleaving
import Workflow.Proofs.Interruption
import Workflow.Proofs.Outcome
import Workflow.Proofs.Pairing
import Workflow.Proofs.Phase
import Workflow.Proofs.Reading
import Workflow.Proofs.Records
import Workflow.Proofs.Resumption
import Workflow.Quantity
import Workflow.Rehearsal.Basic
import Workflow.Rehearsal.Script
import Workflow.Run.Attempt
import Workflow.Run.Backoff
import Workflow.Run.Engine
import Workflow.Run.Executor
import Workflow.Run.Failing
import Workflow.Run.Proc
import Workflow.Run.Request
import Workflow.Run.Session
import Workflow.Run.StepExecution
import Workflow.Schema
import Workflow.Settings
import Workflow.Settings.Loading
import Workflow.Store.Backend
import Workflow.Store.Basic
import Workflow.Store.Memory
import Workflow.Store.Statement
import Workflow.Store.Table
import Workflow.Template
import Workflow.Text.Base64
import Workflow.Text.Blank
import Workflow.Text.Case
import Workflow.Text.Cased
import Workflow.Text.CodePage
import Workflow.Text.CodeTable
import Workflow.Text.Combining
import Workflow.Text.Composition
import Workflow.Text.Digit
import Workflow.Text.Direction
import Workflow.Text.DoubleByte
import Workflow.Text.Encoding
import Workflow.Text.Hangul
import Workflow.Text.Hanzi
import Workflow.Text.Joining
import Workflow.Text.Kanji
import Workflow.Text.Mark
import Workflow.Text.Order
import Workflow.Text.Printable
import Workflow.Text.Quoted
import Workflow.Text.RareKanji
import Workflow.Text.Script
import Workflow.Text.TraditionalHanzi
import Workflow.Text.Utf7
import Workflow.Time.Calendar
import Workflow.Time.Epoch
import Workflow.Time.Timestamp
import Workflow.Value.Basic
import Workflow.Value.Display
import Workflow.Value.Form
import Workflow.Yaml.Cursor
import Workflow.Yaml.Kind
import Workflow.Yaml.Node
import Workflow.Yaml.Reader
import Workflow.Yaml.Scalar
import Workflow.Yaml.ScalarValue
import Workflow.Yaml.Token
import Workflow.Proofs.Evaluation
import Workflow.Proofs.Attempts
import Workflow.Proofs.Passage
import Workflow.Proofs.Compensation
import Workflow.Proofs.Route
import Workflow.Proofs.Document
import Workflow.Proofs.Grammar
import Workflow.Proofs.Quotation
import Workflow.Proofs.JsonText
import Workflow.Proofs.NumberText
import Workflow.Proofs.RoundTrip
import Workflow.Proofs.Calendar
import Workflow.Proofs.TimeText
import Workflow.Proofs.Rows
import Workflow.Proofs.Backends
import Workflow.Proofs.Steadiness
import Workflow.Proofs.Recurrence
import Workflow.Proofs.Growth
import Workflow.Proofs.Retention
import Workflow.Proofs.Stopping
import Workflow.Proofs.Rendering
import Workflow.Proofs.Admission
import Workflow.Proofs.Reporting
import Workflow.Proofs.Succession
import Workflow.Proofs.Building
import Workflow.Proofs.Comparison
import Workflow.Proofs.Completion
import Workflow.Proofs.Delivery
import Workflow.Proofs.Failures
import Workflow.Proofs.Refusal
import Workflow.Proofs.Rejection
import Workflow.Proofs.Verdict
import Workflow.Proofs.Declaration
import Workflow.Proofs.Limit
import Workflow.Proofs.Persistence
import Workflow.Proofs.Literal
import Workflow.Proofs.Negation
import Workflow.Proofs.Coherence
import Workflow.Proofs.Substitution
import Workflow.Proofs.Placement
import Workflow.Proofs.Reversal
import Workflow.Proofs.Naming
import Workflow.Proofs.Listing
import Workflow.Proofs.Recording
import Workflow.Proofs.Drafting
import Workflow.Proofs.Agreement
import Workflow.Proofs.Arguments
import Workflow.Proofs.Acceptance
import Workflow.Proofs.Upkeep
import Workflow.Proofs.Numbering
import Workflow.Proofs.Chronology
import Workflow.Proofs.Telling
import Workflow.Proofs.Containment
