import ScanConsole.Backend.Client
import ScanConsole.Backend.Messages
import ScanConsole.Backend.Transports
import ScanConsole.Config.Basic
import ScanConsole.Config.Load
import ScanConsole.Console.Basic
import ScanConsole.Console.Operation
import ScanConsole.Console.Plugins
import ScanConsole.Console.Resources
import ScanConsole.Csrf.Token
import ScanConsole.Decimal.Binary64
import ScanConsole.Decimal.Shortest
import ScanConsole.EventStream.Reader
import ScanConsole.Execution.Channel
import ScanConsole.Execution.Event
import ScanConsole.Execution.Run
import ScanConsole.Execution.Transcript
import ScanConsole.Execution.World
import ScanConsole.Failure
import ScanConsole.Http.Message
import ScanConsole.Http.Network
import ScanConsole.Http.Token
import ScanConsole.Jobs.Check
import ScanConsole.Jobs.Job
import ScanConsole.Jobs.Shift
import ScanConsole.Jobs.Turn
import ScanConsole.Jobs.Workspace
import ScanConsole.Json.Decoder
import ScanConsole.Json.Document
import ScanConsole.Json.Number
import ScanConsole.Json.Printer
import ScanConsole.Json.Reader
import ScanConsole.Log.Buffer
import ScanConsole.Log.Filter
import ScanConsole.Log.Journal
import ScanConsole.Log.Mask
import ScanConsole.Log.Pattern
import ScanConsole.Log.Record
import ScanConsole.Plugin.Basic
import ScanConsole.Plugin.Json
import ScanConsole.Proofs.ActiveTab
import ScanConsole.Proofs.Ahead
import ScanConsole.Proofs.AlignedTables
import ScanConsole.Proofs.Alone
import ScanConsole.Proofs.Caret
import ScanConsole.Proofs.Checks
import ScanConsole.Proofs.Chunking
import ScanConsole.Proofs.Drops
import ScanConsole.Proofs.Exchanges
import ScanConsole.Proofs.FailedChanges
import ScanConsole.Proofs.Failures
import ScanConsole.Proofs.Frames
import ScanConsole.Proofs.InStep
import ScanConsole.Proofs.Joined
import ScanConsole.Proofs.JsonRoundTrip
import ScanConsole.Proofs.KeptBytes
import ScanConsole.Proofs.LastFailure
import ScanConsole.Proofs.Links
import ScanConsole.Proofs.LogHistory
import ScanConsole.Proofs.Markup
import ScanConsole.Proofs.MaskedSecrets
import ScanConsole.Proofs.Messages
import ScanConsole.Proofs.NewestTab
import ScanConsole.Proofs.NormalForms
import ScanConsole.Proofs.Overwriting
import ScanConsole.Proofs.OwnOrigin
import ScanConsole.Proofs.Ownership
import ScanConsole.Proofs.PageTokens
import ScanConsole.Proofs.PinnedTabs
import ScanConsole.Proofs.PluginAddress
import ScanConsole.Proofs.PluginMirror
import ScanConsole.Proofs.PluginRequests
import ScanConsole.Proofs.Precedence
import ScanConsole.Proofs.Records
import ScanConsole.Proofs.RefreshAnswers
import ScanConsole.Proofs.RefreshCourse
import ScanConsole.Proofs.RefreshedTab
import ScanConsole.Proofs.Refreshing
import ScanConsole.Proofs.ResourceList
import ScanConsole.Proofs.SameAnswer
import ScanConsole.Proofs.Segments
import ScanConsole.Proofs.SelectedTab
import ScanConsole.Proofs.Selection
import ScanConsole.Proofs.SessionLife
import ScanConsole.Proofs.Sessions
import ScanConsole.Proofs.Settling
import ScanConsole.Proofs.Shifts
import ScanConsole.Proofs.Stamps
import ScanConsole.Proofs.Story
import ScanConsole.Proofs.TabIds
import ScanConsole.Proofs.Tabs
import ScanConsole.Proofs.TokenHeader
import ScanConsole.Proofs.Transports
import ScanConsole.Proofs.Turns
import ScanConsole.Proofs.Utf8
import ScanConsole.Proofs.VerbatimSearch
import ScanConsole.Proofs.WaitingReaders
import ScanConsole.Proofs.Watch
import ScanConsole.Resource.Basic
import ScanConsole.Resource.Json
import ScanConsole.Screen.Basic
import ScanConsole.Screen.Json
import ScanConsole.Screen.Layout
import ScanConsole.Script.Editor
import ScanConsole.Script.Highlight
import ScanConsole.Session.Basic
import ScanConsole.State.Action
import ScanConsole.State.Apply
import ScanConsole.State.Basic
import ScanConsole.State.Json
import ScanConsole.State.Notice
import ScanConsole.State.View
import ScanConsole.Tab.Basic
import ScanConsole.Tab.RefreshInterval
import ScanConsole.Text.Blank
import ScanConsole.Text.CombiningTable
import ScanConsole.Text.Composed
import ScanConsole.Text.Hex
import ScanConsole.Text.Letter
import ScanConsole.Text.LetterTable
import ScanConsole.Text.Lines
import ScanConsole.Text.Lowercase
import ScanConsole.Text.LowercaseTable
import ScanConsole.Text.PrintableTable
import ScanConsole.Text.Quoted
import ScanConsole.Text.Ranges
import ScanConsole.Text.Search
import ScanConsole.Text.Utf8
import ScanConsole.Text.Word
import ScanConsole.Text.WordTable
import ScanConsole.Time.Instant
import ScanConsole.Url.Address
import ScanConsole.Url.Basic
import ScanConsole.Url.Direction
import ScanConsole.Url.DirectionTable
import ScanConsole.Url.Domain
import ScanConsole.Url.DomainTable
import ScanConsole.Url.Joining
import ScanConsole.Url.JoiningTable
import ScanConsole.Url.Parse
import ScanConsole.Url.Path
import ScanConsole.Url.Percent
import ScanConsole.Url.Punycode
import ScanConsole.Workers.Lock
import ScanConsole.Workers.Pool
