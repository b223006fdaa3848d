import Televisor.Main
import Televisor.Rendering.Inbox
import Televisor.Rendering.Source
import Televisor.Run.Clients
import Televisor.Run.Operation
import Televisor.Run.Trace
import Televisor.Proofs.Run.Advance
import Televisor.Proofs.Run.Passage
import Televisor.Proofs.Run.Exchange
import Televisor.Proofs.Telemetry.Lodging
import Televisor.Proofs.Telemetry.Course
import Televisor.Proofs.Run.Poll
import Televisor.Proofs.Run.Execution
import Televisor.Proofs.Telemetry.Housing
import Televisor.Proofs.Power.Deadline
import Televisor.Proofs.Power.Suppression
import Televisor.Proofs.Run.Publication
import Televisor.Proofs.Telemetry.Resources
import Televisor.Proofs.Discovery.Meanwhile
import Televisor.Proofs.Discovery.History
import Televisor.Proofs.Run.Lull
import Televisor.Proofs.Telemetry.Beginning
import Televisor.Proofs.Telemetry.Aftermath
import Televisor.Proofs.Rendering.Outcome
import Televisor.Proofs.Telemetry.Wholeness
import Televisor.Proofs.Run.Draining
import Televisor.Run.Handling
import Televisor.Proofs.Telemetry.Books
import Televisor.Proofs.Telemetry.Bookkeeping
import Televisor.Proofs.Telemetry.Keeping
import Televisor.Proofs.Telemetry.Subscription
import Televisor.Proofs.Run.Showing
import Televisor.Proofs.Run.Standstill
import Televisor.Proofs.Power.Agreement
import Televisor.Proofs.Telemetry.Fold
import Televisor.Proofs.Telemetry.Touch
import Televisor.Proofs.Telemetry.Listening
import Televisor.Proofs.Telemetry.Deafness
import Televisor.Proofs.Telemetry.Values
import Televisor.Proofs.Telemetry.Origin
import Televisor.Proofs.Telemetry.Rejection
import Televisor.Proofs.Text.Base64
import Televisor.Proofs.Text.Utf8
import Televisor.Remote.Reading
import Televisor.Proofs.Remote.Framing
import Televisor.Proofs.Remote.Dialogue
import Televisor.Proofs.Remote.Transcript
import Televisor.Proofs.Remote.Delivery
import Televisor.Proofs.Remote.Conduct
import Televisor.Proofs.Markup.Unescaping
import Televisor.Proofs.Markup.Escaping
import Televisor.Proofs.Text.Search
import Televisor.Proofs.Markup.Scanning
import Televisor.Proofs.Rendering.Describing
import Televisor.Proofs.Rendering.Descriptions
import Televisor.Proofs.Text.Number
import Televisor.Proofs.Markup.Attributes
import Televisor.Proofs.Rendering.Events
import Televisor.Proofs.Config.Overriding
import Televisor.Proofs.Api.Refusal
import Televisor.Api.Follower
import Televisor.Proofs.Api.Following
import Televisor.Proofs.Discovery.Waiting
import Televisor.Proofs.Run.View
import Televisor.Proofs.Run.Elapsing
import Televisor.Proofs.Telemetry.Beside
import Televisor.Proofs.Discovery.Ending
import Televisor.Proofs.Run.SideBySide
import Televisor.Proofs.Run.Steadiness
import Televisor.Proofs.Telemetry.Teardown
import Televisor.Proofs.Run.Dispatch
import Televisor.Proofs.Text.ByteOrder
import Televisor.Proofs.Run.Toggling
import Televisor.Proofs.Run.Sources
import Televisor.Proofs.Remote.Decision
import Televisor.Proofs.Wake.Attempts
import Televisor.Proofs.Url.AddressText
import Televisor.Proofs.Url.HostNames
import Televisor.Proofs.Api.Credentials
import Televisor.Proofs.Telemetry.Callback
import Televisor.Proofs.Text.Slice
import Televisor.Markup.Cursor
import Televisor.Proofs.Markup.Bounds
import Televisor.Proofs.Markup.Levels
import Televisor.Proofs.Wake.Notation
import Televisor.Proofs.Markup.OpenTags
import Televisor.Proofs.Text.Spacing
import Televisor.Proofs.Markup.Spacing
import Televisor.Proofs.Rendering.Respacing
import Televisor.Proofs.Markup.Listing
import Televisor.Proofs.Power.Lapse
