import RecordGrid.Columns.Basic
import RecordGrid.Columns.Wire
import RecordGrid.Count
import RecordGrid.Decimal.Layout
import RecordGrid.Decimal.Shortest
import RecordGrid.Fetch.Coordinator
import RecordGrid.Fetch.Listing
import RecordGrid.Filter.Form
import RecordGrid.Filter.Item
import RecordGrid.Filter.Value
import RecordGrid.Filter.Wire
import RecordGrid.Grid.Actions
import RecordGrid.Grid.Basic
import RecordGrid.Grid.Config
import RecordGrid.Grid.View
import RecordGrid.Json.Basic
import RecordGrid.Json.Draft
import RecordGrid.Json.Fields
import RecordGrid.Json.Lexeme
import RecordGrid.Json.Writer
import RecordGrid.KeyMap
import RecordGrid.Keys.Binding
import RecordGrid.Keys.Press
import RecordGrid.Pager
import RecordGrid.Pins.Board
import RecordGrid.Pins.NaturalOrder
import RecordGrid.Pins.Pin
import RecordGrid.Proofs.Columns.Overlay
import RecordGrid.Proofs.Columns.Reordering
import RecordGrid.Proofs.Fetch.Basic
import RecordGrid.Proofs.Fetch.Failure
import RecordGrid.Proofs.Fetch.InTurn
import RecordGrid.Proofs.Fetch.LastResponse
import RecordGrid.Proofs.Fetch.LatestOnly
import RecordGrid.Proofs.Fetch.Routing
import RecordGrid.Proofs.Fetch.Session
import RecordGrid.Proofs.Fetch.SingleFlight
import RecordGrid.Proofs.Filter.Editing
import RecordGrid.Proofs.Filter.Kinds
import RecordGrid.Proofs.Filter.Patch
import RecordGrid.Proofs.Grid.Calls
import RecordGrid.Proofs.Grid.Cursor
import RecordGrid.Proofs.Grid.Filters
import RecordGrid.Proofs.Grid.FirstLoad
import RecordGrid.Proofs.Grid.Intent
import RecordGrid.Proofs.Grid.Navigation
import RecordGrid.Proofs.Grid.Operations
import RecordGrid.Proofs.Grid.Outcomes
import RecordGrid.Proofs.Grid.PageKeys
import RecordGrid.Proofs.Grid.Positive
import RecordGrid.Proofs.Grid.Reachable
import RecordGrid.Proofs.Grid.Routing
import RecordGrid.Proofs.Grid.Selection
import RecordGrid.Proofs.Grid.Trail
import RecordGrid.Proofs.Grid.Twins
import RecordGrid.Proofs.Grid.UrlChanged
import RecordGrid.Proofs.Json.Floats
import RecordGrid.Proofs.Json.Formats
import RecordGrid.Proofs.Json.Reading
import RecordGrid.Proofs.Json.Records
import RecordGrid.Proofs.Pager
import RecordGrid.Proofs.Pins.Alike
import RecordGrid.Proofs.Pins.Distinct
import RecordGrid.Proofs.Pins.Entries
import RecordGrid.Proofs.Pins.NaturalOrder
import RecordGrid.Proofs.Pins.Numbers
import RecordGrid.Proofs.Pins.Order
import RecordGrid.Proofs.Pins.Usage
import RecordGrid.Proofs.Request.Batches
import RecordGrid.Proofs.Request.Overwrite
import RecordGrid.Proofs.Request.Readers
import RecordGrid.Proofs.Request.Synced
import RecordGrid.Proofs.Request.Wire
import RecordGrid.Proofs.Selection
import RecordGrid.Proofs.Text.FormEncoding
import RecordGrid.Proofs.Text.Utf8
import RecordGrid.Proofs.Url.AddressText
import RecordGrid.Proofs.Url.Numeral
import RecordGrid.Proofs.Url.Pairs
import RecordGrid.Proofs.Url.ReadBack
import RecordGrid.Proofs.Url.Trail
import RecordGrid.Request.Basic
import RecordGrid.Request.Patch
import RecordGrid.Request.Store
import RecordGrid.Request.Wire
import RecordGrid.Row
import RecordGrid.Selection
import RecordGrid.Table.Cursor
import RecordGrid.Table.Style
import RecordGrid.Table.View
import RecordGrid.Text.Blank
import RecordGrid.Text.BreakClass
import RecordGrid.Text.Cluster
import RecordGrid.Text.Emoji
import RecordGrid.Text.Escape
import RecordGrid.Text.Extending
import RecordGrid.Text.Fit
import RecordGrid.Text.FormEncoding
import RecordGrid.Text.Ignorable
import RecordGrid.Text.Lowercase
import RecordGrid.Text.Quoted
import RecordGrid.Text.Ranges
import RecordGrid.Text.Unprintable
import RecordGrid.Text.Utf8
import RecordGrid.Text.Wide
import RecordGrid.Text.Width
import RecordGrid.Url.Address
import RecordGrid.Url.History
import RecordGrid.Url.Paging
import RecordGrid.Url.Wire
import RecordGrid.Proofs.Keys
import RecordGrid.Proofs.Grid.Setup
import RecordGrid.Proofs.Table.Layout
import RecordGrid.Proofs.Url.Needless
