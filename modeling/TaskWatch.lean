import TaskWatch.Binary64
import TaskWatch.Text.Numeral
import TaskWatch.Duration
import TaskWatch.ClientError
import TaskWatch.Calendar
import TaskWatch.Text.Blank
import TaskWatch.Instant
import TaskWatch.Text.CaseTable
import TaskWatch.Text.Case
import TaskWatch.Decimal
import TaskWatch.Json.Number
import TaskWatch.Json.Basic
import TaskWatch.Json.Document
import TaskWatch.Json.Reader
import TaskWatch.Json.Record
import TaskWatch.Wire.Task
import TaskWatch.Task.Basic
import TaskWatch.Wire.Event
import TaskWatch.Task.Event
import TaskWatch.Token
import TaskWatch.Channel.Basic
import TaskWatch.Broker.Basic
import TaskWatch.Broker.Session
import TaskWatch.Endpoint
import TaskWatch.Environment
import TaskWatch.Text.Utf8
import TaskWatch.Toml.Basic
import TaskWatch.Toml.Scalar
import TaskWatch.Toml.Table
import TaskWatch.Toml.Text
import TaskWatch.Toml.Reader
import TaskWatch.Registry
import TaskWatch.Call.Basic
import TaskWatch.Label
import TaskWatch.Metadata.Lines
import TaskWatch.Metadata.Extraction
import TaskWatch.Metadata.Parser
import TaskWatch.Call.State
import TaskWatch.Call.Reading
import TaskWatch.Call.Session
import TaskWatch.Channel.Pipe
import TaskWatch.Wire.Response
import TaskWatch.Client.Answer
import TaskWatch.Client.Basic
import TaskWatch.Line.Basic
import TaskWatch.Line.Reader
import TaskWatch.Network.Conversation
import TaskWatch.Network.Basic
import TaskWatch.Wire.Request
import TaskWatch.Client.Connection
import TaskWatch.Task.Listing
import TaskWatch.Client.Operation
import TaskWatch.Client.Watch
import TaskWatch.Locator.Window
import TaskWatch.Locator.Basic
import TaskWatch.CommandLine
import TaskWatch.Main
import TaskWatch.Metadata.Question
import TaskWatch.Metadata.Submission
import TaskWatch.Tracker.Source
import TaskWatch.Tracker.Basic
import TaskWatch.Tracker.Render
import TaskWatch.Tracker.Watching
import TaskWatch.Tracker.Daemon
import TaskWatch.Tracker.Session
import TaskWatch.Tracker.Race
import TaskWatch.Proofs.Text.NonBlank
import TaskWatch.Proofs.Call.Watch
import TaskWatch.Proofs.Entries
import TaskWatch.Proofs.Tracker.Books
import TaskWatch.Proofs.Tracker.Change
import TaskWatch.Proofs.Tracker.Kept
import TaskWatch.Proofs.Tracker.Passage
import TaskWatch.Proofs.Tracker.Evictions
import TaskWatch.Proofs.Broker.Streams
import TaskWatch.Proofs.Broker.Live
import TaskWatch.Proofs.Broker.Landing
import TaskWatch.Proofs.Tracker.Linked
import TaskWatch.Proofs.Tracker.Sound
import TaskWatch.Proofs.Tracker.Watchers
import TaskWatch.Proofs.Call.Closing
import TaskWatch.Proofs.Client.Feed
import TaskWatch.Proofs.Tracker.Receipt
import TaskWatch.Proofs.Tracker.Poll
import TaskWatch.Proofs.Tracker.Apart
import TaskWatch.Proofs.Tracker.Sources
import TaskWatch.Proofs.Tracker.Heed
import TaskWatch.Proofs.Tracker.Armed
import TaskWatch.Proofs.Tracker.Watches
import TaskWatch.Proofs.Tracker.Delivery
import TaskWatch.Proofs.Tracker.Terminal
import TaskWatch.Proofs.Line.Reader
import TaskWatch.Proofs.Client.Watch
import TaskWatch.Proofs.Line.Calls
import TaskWatch.Proofs.Channel.Exchange
import TaskWatch.Proofs.Text.Numeral
import TaskWatch.Proofs.Json.Leaf
import TaskWatch.Proofs.Json.Tree
import TaskWatch.Proofs.Steps
import TaskWatch.Proofs.Json.Record
import TaskWatch.Proofs.Wire.Messages
import TaskWatch.Proofs.Calendar
import TaskWatch.Proofs.Instant
import TaskWatch.Proofs.Task.Time
import TaskWatch.Proofs.Task.Event
import TaskWatch.Proofs.Call.Effects
import TaskWatch.Proofs.Call.Slot
import TaskWatch.Proofs.Call.Label
import TaskWatch.Proofs.Call.Lines
import TaskWatch.Proofs.Text.Utf8
import TaskWatch.Proofs.Json.Plain
import TaskWatch.Proofs.Client.Sent
import TaskWatch.Proofs.Client.Room
import TaskWatch.Proofs.Tracker.Confined
import TaskWatch.Proofs.Tracker.Ownership
import TaskWatch.Proofs.Tracker.Owned
import TaskWatch.Proofs.Tracker.Proper
import TaskWatch.Proofs.Tracker.Start
import TaskWatch.Proofs.Tracker.Spared
import TaskWatch.Proofs.Broker.Subscribers
import TaskWatch.Proofs.Broker.Handing
import TaskWatch.Proofs.Broker.Advances
import TaskWatch.Proofs.Tracker.InOrder
import TaskWatch.Proofs.Tracker.Subscribed
import TaskWatch.Proofs.Tracker.Feeding
import TaskWatch.Proofs.Call.Again
import TaskWatch.Proofs.Call.Told
import TaskWatch.Proofs.Tracker.Listening
import TaskWatch.Proofs.Tracker.Alike
import TaskWatch.Proofs.Tracker.Group
import TaskWatch.Proofs.Tracker.Unwatched
import TaskWatch.Proofs.Tracker.SessionEnd
import TaskWatch.Proofs.Tracker.Race
import TaskWatch.Proofs.Tracker.Stopped
import TaskWatch.Proofs.Tracker.Shutdown
import TaskWatch.Proofs.Tracker.Deeds
import TaskWatch.Proofs.Tracker.Isolation
import TaskWatch.Proofs.Metadata.Search
import TaskWatch.Proofs.Metadata.Memory
import TaskWatch.Proofs.Metadata.Plain
import TaskWatch.Proofs.Json.Kept
import TaskWatch.Proofs.Metadata.Lookup
import TaskWatch.Proofs.Metadata.Submission
import TaskWatch.Proofs.Tracker.Submitted
import TaskWatch.Proofs.Locator.Window
import TaskWatch.Proofs.Locator.Location
import TaskWatch.Proofs.Locator.Owner
import TaskWatch.Proofs.Tracker.Again
import TaskWatch.Proofs.Client.Framing
import TaskWatch.Proofs.Client.Speech
import TaskWatch.Proofs.Client.Handshake
import TaskWatch.Proofs.Broker.Changes
import TaskWatch.Proofs.Broker.Ledger
import TaskWatch.Proofs.Broker.Publishing
import TaskWatch.Proofs.Broker.Accounts
import TaskWatch.Proofs.Task.Progress
import TaskWatch.Proofs.Call.Event
import TaskWatch.Proofs.Call.Converging
import TaskWatch.Proofs.Task.Received
import TaskWatch.Proofs.Client.Outcome
import TaskWatch.Proofs.Metadata.Lines
import TaskWatch.Proofs.Metadata.Reencoded
import TaskWatch.Proofs.Call.Seeding
import TaskWatch.Proofs.Call.Story
import TaskWatch.Proofs.Environment
import TaskWatch.Proofs.Registry
import TaskWatch.Proofs.Task.Listing
