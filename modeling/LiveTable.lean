import LiveTable.Answer
import LiveTable.Decimal.Shortest
import LiveTable.Epoch
import LiveTable.Event
import LiveTable.Failure
import LiveTable.Filter
import LiveTable.Item
import LiveTable.Json.Basic
import LiveTable.Json.Decode
import LiveTable.Json.Printer
import LiveTable.Json.Reader
import LiveTable.Proofs.Answer.Agreement
import LiveTable.Proofs.Answer.Read
import LiveTable.Proofs.Answer.RoundTrip
import LiveTable.Proofs.Answer.Serves
import LiveTable.Proofs.Epoch.Layouts
import LiveTable.Proofs.Epoch.Token
import LiveTable.Proofs.Filter.Reading
import LiveTable.Proofs.Item.Identity
import LiveTable.Proofs.Json.Decoding
import LiveTable.Proofs.Json.Records
import LiveTable.Proofs.Rows.Channels
import LiveTable.Proofs.Rows.ClosedForm
import LiveTable.Proofs.Rows.Growth
import LiveTable.Proofs.Rows.Index
import LiveTable.Proofs.Rows.Keys
import LiveTable.Proofs.Rows.Numbering
import LiveTable.Proofs.Rows.Redelivery
import LiveTable.Proofs.Rows.Reordering
import LiveTable.Proofs.Rows.Scanning
import LiveTable.Proofs.Rows.Slice
import LiveTable.Proofs.Session.Admission
import LiveTable.Proofs.Session.Alike
import LiveTable.Proofs.Session.Booking
import LiveTable.Proofs.Session.Bounds
import LiveTable.Proofs.Session.Clearing
import LiveTable.Proofs.Session.Delivery
import LiveTable.Proofs.Session.Draining
import LiveTable.Proofs.Session.Editing
import LiveTable.Proofs.Session.Forgetting
import LiveTable.Proofs.Session.Growth
import LiveTable.Proofs.Session.Handling
import LiveTable.Proofs.Session.Index
import LiveTable.Proofs.Session.Intake
import LiveTable.Proofs.Session.Leftover
import LiveTable.Proofs.Session.Logging
import LiveTable.Proofs.Session.Merging
import LiveTable.Proofs.Session.Opening
import LiveTable.Proofs.Session.Paging
import LiveTable.Proofs.Session.Peers
import LiveTable.Proofs.Session.Processing
import LiveTable.Proofs.Session.Publishing
import LiveTable.Proofs.Session.Question
import LiveTable.Proofs.Session.Recognition
import LiveTable.Proofs.Session.Redelivery
import LiveTable.Proofs.Session.Refusal
import LiveTable.Proofs.Session.Replica
import LiveTable.Proofs.Session.RowActions
import LiveTable.Proofs.Session.Skipping
import LiveTable.Proofs.Session.Stamping
import LiveTable.Proofs.Session.Step
import LiveTable.Proofs.Session.Superseded
import LiveTable.Proofs.Session.Telling
import LiveTable.Proofs.Session.Ticket
import LiveTable.Proofs.Session.Writing
import LiveTable.Proofs.Settings.Fields
import LiveTable.Proofs.Target.RoundTrip
import LiveTable.Proofs.Text.Hex
import LiveTable.Proofs.Window.Coverage
import LiveTable.Request
import LiveTable.Rows
import LiveTable.Session
import LiveTable.Session.Action
import LiveTable.Settings
import LiveTable.Settings.Document
import LiveTable.SortOrder
import LiveTable.Target
import LiveTable.Text.Blank
import LiveTable.Text.CaseData
import LiveTable.Text.Hex
import LiveTable.Text.LowerCase
import LiveTable.Window
import LiveTable.Yaml.Cursor
import LiveTable.Yaml.Lexer
import LiveTable.Yaml.Node
import LiveTable.Yaml.Scalar
import LiveTable.Yaml.Tag
import LiveTable.Yaml.Token
