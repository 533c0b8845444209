import DocumentStore.Client.Run
import DocumentStore.Proofs.Bulk.Course
import DocumentStore.Proofs.Bulk.Drain
import DocumentStore.Proofs.Bulk.Order
import DocumentStore.Proofs.Bulk.Reporting
import DocumentStore.Proofs.Cluster.Failover
import DocumentStore.Proofs.Cluster.Resolved
import DocumentStore.Proofs.Node.Trace
import DocumentStore.Proofs.Cluster.Rotation
import DocumentStore.Proofs.Cluster.Outcome
import DocumentStore.Proofs.Text.Utf8
import DocumentStore.Proofs.Json.OneLine
import DocumentStore.Proofs.Json.Token
import DocumentStore.Proofs.Json.RoundTrip
import DocumentStore.Proofs.Json.Reading
import DocumentStore.Proofs.Text.Lines
import DocumentStore.Proofs.Bulk.Framing
import DocumentStore.Proofs.Bulk.ReadBack
import DocumentStore.Proofs.Bulk.Timeout
import DocumentStore.Proofs.Bulk.Acknowledged
import DocumentStore.Proofs.Client.Closed
import DocumentStore.Proofs.Client.Addressing
import DocumentStore.Proofs.Path
import DocumentStore.Proofs.Bulk.Timer
import DocumentStore.Proofs.Json.Extract
import DocumentStore.Proofs.Search.Hits
import DocumentStore.Proofs.Search.Source
import DocumentStore.Proofs.Search.Failure
import DocumentStore.Proofs.Query
import DocumentStore.Proofs.Cluster.Selection
import DocumentStore.Proofs.Bulk.Threshold
import DocumentStore.Proofs.Access
import DocumentStore.Proofs.Query.Verbatim
import DocumentStore.Proofs.Search.Body
import DocumentStore.Proofs.Reading
import DocumentStore.Proofs.Client.Dialogue
import DocumentStore.Proofs.Client.Inquiry
import DocumentStore.Proofs.Client.Creation
import DocumentStore.Proofs.Text.Base64
import DocumentStore.Proofs.Node.Authorization
import DocumentStore.Proofs.Client.Authorization
import DocumentStore.Proofs.Client.Start
import DocumentStore.Proofs.Bulk.Delay
