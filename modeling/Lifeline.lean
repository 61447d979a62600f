import Lifeline.CommandLine.Client
import Lifeline.Config.Document
import Lifeline.Connection.Rehearsal
import Lifeline.Decimal.Literal
import Lifeline.Gateway.Rehearsal
import Lifeline.Main
import Lifeline.Proofs.Connection.Life
import Lifeline.Transport.Bench
import Lifeline.Transport.Dial
import Lifeline.Proofs.Connection.History
import Lifeline.Proofs.Connection.Silence
import Lifeline.Proofs.Connection.PongTimers
import Lifeline.Proofs.Connection.Custody
import Lifeline.Proofs.Connection.Retention
import Lifeline.Proofs.Connection.Attempts
import Lifeline.Proofs.Connection.Published
import Lifeline.Connection.Mailbox
import Lifeline.Proofs.Connection.Closing
import Lifeline.Proofs.Connection.Outbound
import Lifeline.Proofs.Connection.Alerts
import Lifeline.Proofs.Connection.Traffic
import Lifeline.Proofs.Json.Number
import Lifeline.Proofs.Json.Text
import Lifeline.Proofs.Envelope.RoundTrip
import Lifeline.Proofs.Gateway.Relaying
import Lifeline.Proofs.Hub.Accounts
import Lifeline.Proofs.Gateway.Acts
import Lifeline.Proofs.Gateway.Standing
import Lifeline.Proofs.Gateway.Moves
import Lifeline.Proofs.Gateway.Frames
import Lifeline.Proofs.Gateway.Provenance
import Lifeline.Proofs.Gateway.Lifecycle
import Lifeline.Proofs.Json.Doubles
import Lifeline.Proofs.Json.Extent
import Lifeline.Proofs.Gateway.Authenticity
import Lifeline.Proofs.Envelope.Decoders
import Lifeline.Proofs.Envelope.Encoders
import Lifeline.Proofs.Endpoint.Url
import Lifeline.Proofs.Gateway.Mounting
import Lifeline.Proofs.Hub.Visits
import Lifeline.Proofs.Config.Written
import Lifeline.Proofs.Config.Faults
import Lifeline.Proofs.Config.Loaders
import Lifeline.Proofs.Config.Durations
import Lifeline.Proofs.Hub.Register
import Lifeline.Proofs.Connection.Outcomes
import Lifeline.Proofs.Transport.Courses
import Lifeline.Proofs.Endpoint.Identity
import Lifeline.Proofs.CommandLine.Forwarding
