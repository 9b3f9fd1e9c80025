import BusCache.Table
import BusCache.Scalar
import BusCache.Wire.Type
import BusCache.Kind
import BusCache.Signature
import BusCache.Value
import BusCache.ObjectPath
import BusCache.Text.Unprintable
import BusCache.Text.Quoted
import BusCache.Error
import BusCache.Reader
import BusCache.Wire.Value
import BusCache.Wire.Decode
import BusCache.Wire.Encode
import BusCache.Message
import BusCache.Event
import BusCache.Config
import BusCache.Element
import BusCache.Ownership
import BusCache.Session.State
import BusCache.Session.Run
import BusCache.PropertyProtocol
import BusCache.Session.Calls
import BusCache.Session.Removal
import BusCache.Session.Discovery
import BusCache.Session.Presence
import BusCache.Session.Replies
import BusCache.Session.Signals
import BusCache.Session.Operation
import BusCache.Services.Handle
import BusCache.Services.Bluez
import BusCache.Services.Connman
import BusCache.Services.NetworkManager
import BusCache.Decimal.Shortest
import BusCache.Monitor.Describe
import BusCache.Monitor.Options
import BusCache.Transport
import BusCache.Main
import BusCache.Proofs.Tables
import BusCache.Proofs.Session.View
import BusCache.Proofs.Session.Act
import BusCache.Proofs.Session.Growth
import BusCache.Proofs.Session.Decomposition
import BusCache.Proofs.Session.History
import BusCache.Proofs.Session.CallRoutes
import BusCache.Proofs.Session.SignalRoutes
import BusCache.Proofs.Session.Routing
import BusCache.Proofs.Ledger
import BusCache.Proofs.Session.Effects
import BusCache.Proofs.Session.Resources
import BusCache.Proofs.Session.Turns
import BusCache.Proofs.Session.Completions
import BusCache.Proofs.Session.Caches
import BusCache.Proofs.Session.WriteLog
import BusCache.Proofs.Session.Trees
import BusCache.Proofs.Session.Announcements
import BusCache.Proofs.Session.Teardown
import BusCache.Proofs.Session.Lateness
import BusCache.Proofs.Session.Silence
import BusCache.Proofs.Session.OwnerTracking
import BusCache.Proofs.Session.StartupAnswer
import BusCache.Proofs.Session.Truth
import BusCache.Proofs.Session.ServiceEvents
import BusCache.Proofs.Session.Subscriptions
import BusCache.Proofs.Session.Hearing
import BusCache.Proofs.Session.Addresses
import BusCache.Proofs.Session.Subtrees
import BusCache.Proofs.Session.Children
import BusCache.Proofs.Session.Unasked
import BusCache.Proofs.Session.News
import BusCache.Proofs.Session.Chapters
import BusCache.Proofs.Session.Lives
import BusCache.Proofs.Encoding
import BusCache.Proofs.Session.Refusals
import BusCache.Proofs.Session.Admission
import BusCache.Proofs.Session.Users
import BusCache.Proofs.Decoding
import BusCache.Proofs.Session.Signatures
import BusCache.Proofs.Grammar
import BusCache.Proofs.Ordered
import BusCache.Proofs.Recovery
import BusCache.Proofs.Image
import BusCache.Proofs.Session.Consequences
import BusCache.Proofs.Session.Alterations
import BusCache.Proofs.Session.Independence
import BusCache.Proofs.Session.Depths
import BusCache.Proofs.Session.Deliveries
import BusCache.Proofs.Session.Roots
import BusCache.Proofs.Session.Fetches
import BusCache.Proofs.Undecodable
import BusCache.Proofs.Session.Dropped
import BusCache.Proofs.Session.Rerouting
import BusCache.Proofs.Session.BulkChanges
import BusCache.Proofs.StringKeys
import BusCache.Proofs.Session.HeldKinds
import BusCache.Proofs.Session.WriteBack
import BusCache.Proofs.Session.Resync
import BusCache.Proofs.Acceptance
import BusCache.Proofs.Variants
import BusCache.Proofs.Arguments
import BusCache.Proofs.Session.Sending
import BusCache.Proofs.Services.Requests
import BusCache.Proofs.Services.StaleHandles
import BusCache.Proofs.Services.FailedRequests
import BusCache.Proofs.Session.Answers
import BusCache.Proofs.Bodies
