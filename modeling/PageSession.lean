import PageSession.Main
import PageSession.Session.FileTree
import PageSession.Domain.Basic
import PageSession.Proofs.Link.Conservation
import PageSession.Proofs.Script.LeastFixedPoint
import PageSession.Proofs.Client.Gating
import PageSession.Proofs.Link.Lifecycle
import PageSession.Proofs.Link.Redundancy
import PageSession.Proofs.Link.Pace
import PageSession.Proofs.Link.Closing
import PageSession.Proofs.Link.Events
import PageSession.Proofs.Script.Starts
import PageSession.Proofs.Script.Loads
import PageSession.Proofs.Script.Stalls
import PageSession.Proofs.Script.Styles
import PageSession.Proofs.Script.Queue
import PageSession.Proofs.Link.Inactivity
import PageSession.Proofs.Script.Alternation
import PageSession.Proofs.Json.Writing
import PageSession.Proofs.Json.Reading
import PageSession.Proofs.Notification.RoundTrip
import PageSession.Proofs.Notification.Defects
import PageSession.Proofs.Notification.Arguments
import PageSession.Proofs.Notification.Payloads
import PageSession.Proofs.Client.Omission
import PageSession.Proofs.Client.Blindness
import PageSession.Proofs.Client.Routing
import PageSession.Proofs.Json.Overlay
import PageSession.Proofs.Json.Paths
import PageSession.Proofs.Json.Spelling
import PageSession.Proofs.Json.Decoding
import PageSession.Proofs.Json.Nulls
import PageSession.Proofs.Settings.Layers
import PageSession.Proofs.Settings.CommandLine
import PageSession.Proofs.Settings.Nulls
import PageSession.Proofs.Settings.Defaults
import PageSession.Proofs.Settings.Written
import PageSession.Proofs.Settings.RoundTrip
import PageSession.Proofs.Session.Timestamp
import PageSession.Proofs.Session.Entries
import PageSession.Proofs.Session.Stability
import PageSession.Proofs.Session.Refinement
import PageSession.Proofs.Log.Directives
