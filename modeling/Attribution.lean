import Attribution.Address
import Attribution.Address.Text
import Attribution.Admin
import Attribution.Admin.RequestTarget
import Attribution.Ascending
import Attribution.Batch
import Attribution.Boot
import Attribution.Channel
import Attribution.Counters
import Attribution.Delivery
import Attribution.Delivery.Clock
import Attribution.Delivery.Move
import Attribution.Delivery.Round
import Attribution.Endpoint
import Attribution.Identity
import Attribution.Index
import Attribution.Index.Associate
import Attribution.Index.Consistent
import Attribution.Index.Lookup
import Attribution.Index.Purge
import Attribution.Index.Relations
import Attribution.LogFilter
import Attribution.LogFilter.Brackets
import Attribution.LogFilter.Directive
import Attribution.LogFilter.Escape
import Attribution.LogFilter.FieldMatch
import Attribution.LogFilter.Flags
import Attribution.LogFilter.Pattern
import Attribution.Main
import Attribution.Metadata
import Attribution.OpenMetrics
import Attribution.Proofs.Address.Grammar
import Attribution.Proofs.Address.Socket
import Attribution.Proofs.Address.Writing
import Attribution.Proofs.Delivery.Ease
import Attribution.Proofs.Delivery.Ledger
import Attribution.Proofs.Delivery.Opacity
import Attribution.Proofs.Delivery.Order
import Attribution.Proofs.Delivery.Pace
import Attribution.Proofs.Delivery.Parcel
import Attribution.Proofs.Delivery.Passage
import Attribution.Proofs.Delivery.Quiescence
import Attribution.Proofs.Delivery.Room
import Attribution.Proofs.Description
import Attribution.Proofs.Endpoint.Grammar
import Attribution.Proofs.Endpoint.RoundTrip
import Attribution.Proofs.Index.Attributes
import Attribution.Proofs.Index.Extensionality
import Attribution.Proofs.Index.Merging
import Attribution.Proofs.Index.Opacity
import Attribution.Proofs.Index.Purging
import Attribution.Proofs.Index.Unordered
import Attribution.Proofs.Layout
import Attribution.Proofs.Life
import Attribution.Proofs.Ranking
import Attribution.Proofs.Service.Arrival
import Attribution.Proofs.Service.Completion
import Attribution.Proofs.Service.Conservation
import Attribution.Proofs.Service.Counting
import Attribution.Proofs.Service.Drainage
import Attribution.Proofs.Service.Ease
import Attribution.Proofs.Service.Impact
import Attribution.Proofs.Service.Isolation
import Attribution.Proofs.Service.Observation
import Attribution.Proofs.Service.Opacity
import Attribution.Proofs.Service.Order
import Attribution.Proofs.Service.Phase
import Attribution.Proofs.Service.Publication
import Attribution.Proofs.Service.Resolution
import Attribution.Proofs.Service.Rest
import Attribution.Proofs.Service.Routing
import Attribution.Proofs.Service.Schedule
import Attribution.Proofs.Service.Sleep
import Attribution.Proofs.Service.Transit
import Attribution.Proofs.Settings.Line
import Attribution.Proofs.Settings.Options
import Attribution.Proofs.Settings.Precedence
import Attribution.Proofs.Settings.RoundTrip
import Attribution.Proofs.Settings.Value
import Attribution.Proofs.Sorting
import Attribution.Proofs.Store.Agreement
import Attribution.Proofs.Store.Granularity
import Attribution.Proofs.Store.History
import Attribution.Proofs.Store.Independence
import Attribution.Proofs.Store.LastReport
import Attribution.Proofs.Store.Live
import Attribution.Proofs.Store.Lookup
import Attribution.Proofs.Store.Reordering
import Attribution.Proofs.Store.Repetition
import Attribution.Proofs.Store.Replacement
import Attribution.Proofs.Store.Requests
import Attribution.Proofs.Store.Sizes
import Attribution.Proofs.Text.Encoding
import Attribution.Proofs.Text.Numeral
import Attribution.Proofs.Text.Quoting
import Attribution.Proofs.Text.Reading
import Attribution.Protocol
import Attribution.Service
import Attribution.Settings
import Attribution.Settings.Argument
import Attribution.Settings.CommandLine
import Attribution.Settings.Environment
import Attribution.Settings.Given
import Attribution.SocketAddress
import Attribution.Store
import Attribution.Target
import Attribution.Text.Alphanumeric
import Attribution.Text.BytePosition
import Attribution.Text.CharClass
import Attribution.Text.Cut
import Attribution.Text.GraphemeExtend
import Attribution.Text.Numeral
import Attribution.Text.Padding
import Attribution.Text.Quoted
import Attribution.Text.Unprintable
