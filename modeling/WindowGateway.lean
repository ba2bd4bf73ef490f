import WindowGateway.Text.Blank
import WindowGateway.Text.Utf8
import WindowGateway.Text.Quoted
import WindowGateway.Text.Uppercase
import WindowGateway.Text.Integer
import WindowGateway.Text.Lines
import WindowGateway.Decimal.Shortest
import WindowGateway.OrderedMap
import WindowGateway.Json.Render
import WindowGateway.Json.Parse
import WindowGateway.Wire.Collection
import WindowGateway.Wire.Message
import WindowGateway.Handler
import WindowGateway.Udf
import WindowGateway.Client.Send
import WindowGateway.Address.Bind
import WindowGateway.Toml.Document
import WindowGateway.Settings.Daemon
import WindowGateway.Settings.Send
import WindowGateway.Program
import WindowGateway.Build
import WindowGateway.Corpus
import WindowGateway.Loopback
import WindowGateway.Telemetry
import WindowGateway.Main
import WindowGateway.Proofs.Wire.RoundTrip
import WindowGateway.Proofs.MediaType
import WindowGateway.Proofs.Json.RoundTrip
import WindowGateway.Proofs.Call.Outcome
import WindowGateway.Proofs.Client.Transparency
import WindowGateway.Proofs.Call.Containment
import WindowGateway.Proofs.Builtin.Field
import WindowGateway.Proofs.Json.Members
import WindowGateway.Proofs.Builtin.Tally
import WindowGateway.Proofs.Builtin.Score
import WindowGateway.Proofs.Builtin.Fraud
import WindowGateway.Proofs.Builtin.Chain
import WindowGateway.Proofs.Call.Isolation
import WindowGateway.Proofs.Wire.Message
import WindowGateway.Proofs.Client.Documents
import WindowGateway.Proofs.Call.Log
import WindowGateway.Proofs.Call.Phases
import WindowGateway.Proofs.Call.FirstFailure
import WindowGateway.Proofs.Text.Lines
import WindowGateway.Proofs.Json.Lines
import WindowGateway.Proofs.Client.Lines
import WindowGateway.Proofs.History
import WindowGateway.Proofs.Builtin.Atomic
import WindowGateway.Proofs.Wire.Concatenation
import WindowGateway.Proofs.Wire.Shortest
import WindowGateway.Proofs.MediaType.Grammar
import WindowGateway.Proofs.Client.ContentType
import WindowGateway.Proofs.Client.Items
import WindowGateway.Proofs.Builtin.Order
import WindowGateway.Proofs.Builtin.Uppercase
import WindowGateway.Proofs.Builtin.Integer
import WindowGateway.Proofs.Address.Bind
