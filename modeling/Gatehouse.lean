import Gatehouse.Codec
import Gatehouse.Main
import Gatehouse.Journal.Routing
import Gatehouse.Endpoint.Open
import Gatehouse.Settings.Configuration
import Gatehouse.Listener.Life
import Gatehouse.Text.Percent
import Gatehouse.Patch.Pointer
import Gatehouse.Text.Digit
import Gatehouse.Text.Identifier
import Gatehouse.Text.Lower
import Gatehouse.Text.Word
import Gatehouse.Pattern.Matcher
import Gatehouse.PatternText.Grammar
import Gatehouse.Proofs.Number.Rounding
import Gatehouse.Proofs.Json.Number
import Gatehouse.Proofs.Json.Text
import Gatehouse.Proofs.Json.RoundTrip
import Gatehouse.Proofs.Bytes
import Gatehouse.Proofs.Json.Members
import Gatehouse.Proofs.Schema.Format
import Gatehouse.Proofs.Schema.Shape
import Gatehouse.Proofs.Schema.Document
import Gatehouse.Proofs.Schema.Lawful
import Gatehouse.Proofs.Patch.Carried
import Gatehouse.Proofs.Patch.Forms
import Gatehouse.Proofs.Target
import Gatehouse.Proofs.Codec
import Gatehouse.Proofs.Text
import Gatehouse.Proofs.Patch.Pointer
import Gatehouse.Proofs.Patch.Application
import Gatehouse.Proofs.Review
import Gatehouse.Proofs.Journal
import Gatehouse.Proofs.Policy.Autoscaler
import Gatehouse.Proofs.Endpoint.Body
import Gatehouse.Proofs.Endpoint.Course
import Gatehouse.Proofs.Endpoint.Answers
import Gatehouse.Proofs.ReviewText
import Gatehouse.Proofs.Endpoint.FailClosed
import Gatehouse.Proofs.Endpoint.Version
import Gatehouse.Proofs.Policy.Basic
import Gatehouse.Proofs.Policy.LoadBalancer
import Gatehouse.Proofs.Policy.PodAnnotations
import Gatehouse.Proofs.Json.Taken
import Gatehouse.Proofs.Json.Parts
import Gatehouse.Proofs.Submission
import Gatehouse.Proofs.Policy.Exemption
import Gatehouse.Proofs.Json.Written
import Gatehouse.Proofs.Policy.Void
import Gatehouse.Proofs.Patch.Sent
import Gatehouse.Proofs.Endpoint.Tasks
import Gatehouse.Proofs.Endpoint.Correlation
import Gatehouse.Proofs.Relocation
import Gatehouse.Proofs.Policy.PublicServices
import Gatehouse.Proofs.Schema.Restored
import Gatehouse.Proofs.Reencoding
import Gatehouse.Proofs.Response
import Gatehouse.Proofs.Endpoint.Acceptance
import Gatehouse.Proofs.Listener.Calls
import Gatehouse.Proofs.Listener.Held
import Gatehouse.Proofs.Listener.Sound
import Gatehouse.Proofs.Listener.Returns
import Gatehouse.Proofs.Listener.Further
import Gatehouse.Proofs.Listener.Signals
import Gatehouse.Proofs.Listener.Aftermath
import Gatehouse.Proofs.Listener.Lives
import Gatehouse.Proofs.Http.Router
import Gatehouse.Proofs.Service.Endpoints
import Gatehouse.Proofs.Settings.Sources
import Gatehouse.Proofs.Settings.Loaded
import Gatehouse.Proofs.CommandLine.Flags
import Gatehouse.Proofs.CommandLine.Serve
import Gatehouse.Proofs.Patch.Segments
import Gatehouse.Proofs.Endpoint.Chunks
import Gatehouse.Proofs.Policy.Marking
import Gatehouse.Proofs.Settings.Precedence
import Gatehouse.Proofs.Settings.Required
import Gatehouse.Proofs.Settings.Failures
import Gatehouse.Proofs.CommandLine.Reported
import Gatehouse.Proofs.Policy.Wording
import Gatehouse.Proofs.Service.Built
import Gatehouse.Proofs.Settings.Namespaces
import Gatehouse.Proofs.Service.Placeless
import Gatehouse.Proofs.Spelling
import Gatehouse.Proofs.Settings.Exported
import Gatehouse.Proofs.Settings.Configuration
import Gatehouse.Proofs.Endpoint.Alarms
import Gatehouse.Proofs.Endpoint.Reasons
import Gatehouse.Proofs.Endpoint.Escapes
import Gatehouse.Proofs.Registry
import Gatehouse.Proofs.Pattern.Verdict
import Gatehouse.Proofs.Journal.Routing
