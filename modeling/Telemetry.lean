import Telemetry.Main
import Telemetry.Delivery.OverGrpc
import Telemetry.Delivery.OverHttp
import Telemetry.Query.Respond
import Telemetry.Proofs.Otlp.MalformedIds
import Telemetry.Proofs.Query.Emitted
import Telemetry.Proofs.Store.Headers
import Telemetry.Proofs.Store.Independence
import Telemetry.Proofs.Store.Logs
import Telemetry.Proofs.Store.MetricKinds
import Telemetry.Proofs.Value.ReadBack
import Telemetry.Proofs.Json.Faithful
import Telemetry.Proofs.Value.Faithful
import Telemetry.Proofs.Record.Faithful
import Telemetry.Proofs.Query.MetricListing
import Telemetry.Proofs.Record.MetricFaithful
import Telemetry.Proofs.Record.Walk
import Telemetry.Proofs.Value.Lookup
import Telemetry.Proofs.Delivery.Checks
import Telemetry.Proofs.Id
import Telemetry.Proofs.Otlp.AttributeOrder
import Telemetry.Proofs.Store.Senders
import Telemetry.Proofs.Delivery.Transports
import Telemetry.Proofs.Query.Paths
import Telemetry.Proofs.Query.Lookups
import Telemetry.Proofs.Record.Difference
import Telemetry.Proofs.Record.Summary
import Telemetry.Proofs.Value.FiniteMap
import Telemetry.Proofs.CommandLine.Precedence
import Telemetry.Proofs.Record.RequestHeaders
import Telemetry.Proofs.Id.Grammar
import Telemetry.Proofs.Query.Parameters
import Telemetry.Proofs.Query.ContributingRequests
import Telemetry.Proofs.Store.Accepted
import Telemetry.Proofs.Otlp.Embedding
import Telemetry.Proofs.Record.FlatBytes
import Telemetry.Proofs.Json.Writer
import Telemetry.Proofs.Store.SentNumbers
