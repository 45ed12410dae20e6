import MetricAgent.Text.Fields
import MetricAgent.Text.CodeTable
import MetricAgent.Text.Graphic
import MetricAgent.Text.Composition
import MetricAgent.Text.Quoted
import MetricAgent.Decimal.Natural
import MetricAgent.Decimal.Double
import MetricAgent.Decimal.Literal
import MetricAgent.Decimal.Shortest
import MetricAgent.Time.Calendar
import MetricAgent.Time.Timestamp
import MetricAgent.Time.Span
import MetricAgent.Time.Rounding
import MetricAgent.Unit
import MetricAgent.Measurement
import MetricAgent.Submission
import MetricAgent.Time.Human
import MetricAgent.Queue
import MetricAgent.Collector.LoadAverage
import MetricAgent.Collector.SelfReport
import MetricAgent.Listen.Address
import MetricAgent.Config.Environment
import MetricAgent.Output.Lines
import MetricAgent.Json.Text
import MetricAgent.Json.Reader
import MetricAgent.Http.Payload
import MetricAgent.Http.Batcher
import MetricAgent.Url.Percent
import MetricAgent.Url.Mapping
import MetricAgent.Url.Direction
import MetricAgent.Url.Punycode
import MetricAgent.Url.Ipv4
import MetricAgent.Url.Ipv6
import MetricAgent.Url.Domain
import MetricAgent.Url.Basic
import MetricAgent.Config.Basic
import MetricAgent.Config.Validation
import MetricAgent.Config.Document
import MetricAgent.Http.Base64
import MetricAgent.Http.Delivery
import MetricAgent.Http.Transit
import MetricAgent.Output.Selection
import MetricAgent.SystemError
import MetricAgent.FileTree
import MetricAgent.Yaml.Source
import MetricAgent.Yaml.Scalar
import MetricAgent.Yaml.Token
import MetricAgent.Yaml.Node
import MetricAgent.Yaml.Value
import MetricAgent.Config.Load
import MetricAgent.Collector.Error
import MetricAgent.Collector.Registry
import MetricAgent.Collector.Tick
import MetricAgent.Collector.Scheduler
import MetricAgent.Collector.Schedule
import MetricAgent.Collector.TickLoop
import MetricAgent.Collector.Selection
import MetricAgent.Listen.Line
import MetricAgent.Listen.Connection
import MetricAgent.Listen.AcceptLoop
import MetricAgent.Listen.StopCall
import MetricAgent.Listen.SocketFile
import MetricAgent.Listen.Bind
import MetricAgent.CommandLine.Setting
import MetricAgent.CommandLine.Start
import MetricAgent.CommandLine.Demand
import MetricAgent.Main
import MetricAgent.Proofs.Http.Moves
import MetricAgent.Proofs.Http.Conservation
import MetricAgent.Proofs.Http.Attempts
import MetricAgent.Proofs.Http.Blocks
import MetricAgent.Proofs.Http.Turns
import MetricAgent.Proofs.Http.Acceptance
import MetricAgent.Proofs.Listen.Ingestion
import MetricAgent.Proofs.Http.Submitted
import MetricAgent.Proofs.Output.Derived
import MetricAgent.Proofs.Listen.Ownership
import MetricAgent.Proofs.Listen.Outcome
import MetricAgent.Proofs.Listen.Cutting
import MetricAgent.Proofs.Collector.Protocol
import MetricAgent.Proofs.Output.Resubmission
import MetricAgent.Proofs.Http.Body
import MetricAgent.Proofs.Config.Document
import MetricAgent.Proofs.Http.Retries
import MetricAgent.Proofs.Http.Timing
import MetricAgent.Proofs.Submission.Grammar
import MetricAgent.Proofs.Http.MeasureTime
import MetricAgent.Proofs.Http.Routing
import MetricAgent.Proofs.Output.Totals
import MetricAgent.Proofs.Output.Decoration
import MetricAgent.Proofs.CommandLine.Demand
import MetricAgent.Proofs.Collector.Schedule
import MetricAgent.Proofs.Config.Environment
import MetricAgent.Proofs.Collector.Selection
import MetricAgent.Proofs.Config.Validation
import MetricAgent.Proofs.Http.Target
import MetricAgent.Proofs.CommandLine.Building
import MetricAgent.Proofs.Config.Field
import MetricAgent.Proofs.CommandLine.Layers
import MetricAgent.Proofs.Url.Characters
import MetricAgent.Proofs.Url.Spelling
import MetricAgent.Proofs.Url.Rereading
import MetricAgent.Proofs.Http.Credentials
import MetricAgent.Proofs.Text.Quoted
import MetricAgent.Proofs.Http.Secrets
import MetricAgent.Proofs.Listen.StopCall
import MetricAgent.Proofs.Submission.Printed
import MetricAgent.Proofs.Output.Names
import MetricAgent.Proofs.Listen.Address
