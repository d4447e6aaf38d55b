import AccessFeed.Access
import AccessFeed.Catalog
import AccessFeed.Entries
import AccessFeed.Event
import AccessFeed.Failure
import AccessFeed.Json
import AccessFeed.Json.Printer
import AccessFeed.Json.Reader
import AccessFeed.Mismatch
import AccessFeed.Monitor
import AccessFeed.NameSet
import AccessFeed.Namespace
import AccessFeed.Namespace.Directory
import AccessFeed.Notice
import AccessFeed.Number.Binary64
import AccessFeed.Number.Reading
import AccessFeed.Number.Shortest
import AccessFeed.Proofs.Action
import AccessFeed.Proofs.Backdrop
import AccessFeed.Proofs.Built
import AccessFeed.Proofs.Catalog.Listing
import AccessFeed.Proofs.Catalog.Log
import AccessFeed.Proofs.Catalog.Reentry
import AccessFeed.Proofs.Catalog.Rehearsal
import AccessFeed.Proofs.Course
import AccessFeed.Proofs.Course.Backpressure
import AccessFeed.Proofs.Course.Conservation
import AccessFeed.Proofs.Course.Departure
import AccessFeed.Proofs.Course.Ending
import AccessFeed.Proofs.Course.Flow
import AccessFeed.Proofs.Course.Intake
import AccessFeed.Proofs.Course.Presence
import AccessFeed.Proofs.Course.Replica
import AccessFeed.Proofs.Course.Stopping
import AccessFeed.Proofs.Depth
import AccessFeed.Proofs.Dispatch
import AccessFeed.Proofs.Dispatch.Order
import AccessFeed.Proofs.Edit
import AccessFeed.Proofs.Event.Text
import AccessFeed.Proofs.Glimpse
import AccessFeed.Proofs.Handler
import AccessFeed.Proofs.History
import AccessFeed.Proofs.History.Accounting
import AccessFeed.Proofs.History.Attendance
import AccessFeed.Proofs.History.Convergence
import AccessFeed.Proofs.History.Follow
import AccessFeed.Proofs.History.Gap
import AccessFeed.Proofs.History.HighWater
import AccessFeed.Proofs.History.Isolation
import AccessFeed.Proofs.History.Known
import AccessFeed.Proofs.History.Lifecycle
import AccessFeed.Proofs.History.Likeness
import AccessFeed.Proofs.History.Noninterference
import AccessFeed.Proofs.History.Origin
import AccessFeed.Proofs.History.Registration
import AccessFeed.Proofs.History.Stopping
import AccessFeed.Proofs.History.Subscription
import AccessFeed.Proofs.Holder
import AccessFeed.Proofs.Incident
import AccessFeed.Proofs.Json.Lexeme
import AccessFeed.Proofs.Json.RoundTrip
import AccessFeed.Proofs.Line
import AccessFeed.Proofs.Monitor
import AccessFeed.Proofs.Namespace.LastWrite
import AccessFeed.Proofs.Opening
import AccessFeed.Proofs.Peak
import AccessFeed.Proofs.Progress
import AccessFeed.Proofs.Relay
import AccessFeed.Proofs.Renumbering
import AccessFeed.Proofs.Request
import AccessFeed.Proofs.Scene
import AccessFeed.Proofs.Session
import AccessFeed.Proofs.Settings.Environment
import AccessFeed.Proofs.Settings.KeyPath
import AccessFeed.Proofs.Settings.Layering
import AccessFeed.Proofs.Settings.Location
import AccessFeed.Proofs.Settings.Section
import AccessFeed.Proofs.Settings.Tree
import AccessFeed.Proofs.Settling
import AccessFeed.Proofs.Text.LowerCase
import AccessFeed.Proofs.Told
import AccessFeed.Proofs.Touch
import AccessFeed.Proofs.Turn
import AccessFeed.Proofs.Unresolved
import AccessFeed.Proofs.Visibility
import AccessFeed.Proofs.Wakeup
import AccessFeed.Proofs.WatchOptions.Json
import AccessFeed.Recorder
import AccessFeed.Session
import AccessFeed.Settings.KeyPath
import AccessFeed.Settings.Loading
import AccessFeed.Settings.Source
import AccessFeed.Settings.Tree
import AccessFeed.Text.CaseTable
import AccessFeed.Text.Hexadecimal
import AccessFeed.Text.LowerCase
import AccessFeed.Text.Printable
import AccessFeed.Text.Quoted
import AccessFeed.Toml
import AccessFeed.Toml.Moment
import AccessFeed.Toml.Reader
import AccessFeed.Toml.Scalar
import AccessFeed.Watch
import AccessFeed.Watch.Relay
import AccessFeed.WatchOptions
import AccessFeed.WatchOptions.Json
import AccessFeed.World
