import Wayfinder.Fetch.Fetcher
import Wayfinder.Fetch.Transport
import Wayfinder.Journal.Basic
import Wayfinder.Journal.Search
import Wayfinder.Journal.Store
import Wayfinder.Json.Basic
import Wayfinder.Json.Binary64
import Wayfinder.Json.Decoder
import Wayfinder.Json.Fault
import Wayfinder.Json.Parser
import Wayfinder.Json.Printer
import Wayfinder.Json.Scalar
import Wayfinder.Keyed
import Wayfinder.Navigation.Handler
import Wayfinder.Navigation.Host
import Wayfinder.Navigation.Navigator
import Wayfinder.Navigation.Replay
import Wayfinder.Navigation.Script
import Wayfinder.Page.Document
import Wayfinder.Page.History
import Wayfinder.Proofs.Fetch.Cache
import Wayfinder.Proofs.Fetch.Filling
import Wayfinder.Proofs.Journal.Answers
import Wayfinder.Proofs.Journal.Laws
import Wayfinder.Proofs.Journal.RoundTrip
import Wayfinder.Proofs.Journal.Search
import Wayfinder.Proofs.Journal.Store
import Wayfinder.Proofs.Json.Decoder
import Wayfinder.Proofs.Json.RoundTrip
import Wayfinder.Proofs.Json.Scalar
import Wayfinder.Proofs.Json.Skipping
import Wayfinder.Proofs.Keyed
import Wayfinder.Proofs.Navigation.Course
import Wayfinder.Proofs.Navigation.Moves
import Wayfinder.Proofs.Navigation.RawStates
import Wayfinder.Proofs.Navigation.Recording
import Wayfinder.Proofs.Navigation.Replay
import Wayfinder.Proofs.Navigation.Session
import Wayfinder.Proofs.Page.History
import Wayfinder.Proofs.Page.Timeline
import Wayfinder.Proofs.Route.Addresses
import Wayfinder.Proofs.Route.Clauses
import Wayfinder.Proofs.Route.Cycles
import Wayfinder.Proofs.Route.Encoding
import Wayfinder.Proofs.Route.Fallbacks
import Wayfinder.Proofs.Route.Locality
import Wayfinder.Proofs.Route.Naturality
import Wayfinder.Proofs.Route.Order
import Wayfinder.Proofs.Route.Queue
import Wayfinder.Proofs.Route.Redirects
import Wayfinder.Proofs.Route.Separators
import Wayfinder.Proofs.Route.Spelling
import Wayfinder.Proofs.Route.Validation
import Wayfinder.Proofs.Route.Walk
import Wayfinder.Proofs.Site.Agreement
import Wayfinder.Proofs.Site.Overlay
import Wayfinder.Proofs.Site.Recovery
import Wayfinder.Proofs.Site.TabRoutes
import Wayfinder.Proofs.Site.Timing
import Wayfinder.Proofs.Tabs.Callbacks
import Wayfinder.Proofs.Tabs.Nesting
import Wayfinder.Proofs.Tabs.Selection
import Wayfinder.Proofs.Text.LowerCase
import Wayfinder.Proofs.Text.Reading
import Wayfinder.Proofs.Time.RoundTrip
import Wayfinder.Proofs.Url.Address
import Wayfinder.Proofs.Url.Authority
import Wayfinder.Proofs.Url.Host
import Wayfinder.Proofs.Url.Path
import Wayfinder.Proofs.Url.Reading
import Wayfinder.Proofs.Url.RoundTrip
import Wayfinder.Proofs.Url.Text
import Wayfinder.Route.Directive
import Wayfinder.Route.Encoding
import Wayfinder.Route.Path
import Wayfinder.Route.Resolver
import Wayfinder.Route.Sitemap
import Wayfinder.Site.Basic
import Wayfinder.Site.Config
import Wayfinder.Site.Error
import Wayfinder.Tabs.Tab
import Wayfinder.Tabs.TabBar
import Wayfinder.Text.Blank
import Wayfinder.Text.CaseTable
import Wayfinder.Text.CodeRanges
import Wayfinder.Text.Composed
import Wayfinder.Text.CompositionTable
import Wayfinder.Text.Digits
import Wayfinder.Text.DirectionTable
import Wayfinder.Text.FoldTable
import Wayfinder.Text.GlyphTable
import Wayfinder.Text.JoiningTable
import Wayfinder.Text.LowerCase
import Wayfinder.Text.MarkTable
import Wayfinder.Text.Pieces
import Wayfinder.Text.Quoted
import Wayfinder.Text.Substring
import Wayfinder.Text.Utf8
import Wayfinder.Time.Rfc3339
import Wayfinder.Time.Timestamp
import Wayfinder.Url.Basic
import Wayfinder.Url.Host
import Wayfinder.Url.Label
import Wayfinder.Url.Parser
import Wayfinder.Url.Path
import Wayfinder.Url.Percent
import Wayfinder.Url.Punycode
