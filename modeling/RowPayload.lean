import RowPayload.Text.Letter
import RowPayload.Text.Blank
import RowPayload.Text.Piece
import RowPayload.Text.Quoted
import RowPayload.OrderedMap
import RowPayload.Slots
import RowPayload.Number.Style
import RowPayload.Number.Decimal
import RowPayload.Timestamp
import RowPayload.Guid
import RowPayload.FieldType
import RowPayload.Scalar
import RowPayload.Json.Reader
import RowPayload.Json.Scalar
import RowPayload.Connection.SettingsText
import RowPayload.Connection.SettingsJson
import RowPayload.Mapping.Convention
import RowPayload.Mapping.Metadata
import RowPayload.Record.Registry
import RowPayload.Predicate.Compile
import RowPayload.Lifecycle
import RowPayload.Materialize
import RowPayload.Sql.Parser
import RowPayload.ByteFile
import RowPayload.Engine.Execution
import RowPayload.Engine.Payload
import RowPayload.Backend.Scripted
import RowPayload.Engine.Backend
import RowPayload.Session.Stream
import RowPayload.Exchange.Backend
import RowPayload.Exchange.Mapping
import RowPayload.Exchange.Settings
import RowPayload.Session.Workbench
import RowPayload.Proofs.Engine.Isolation
import RowPayload.Proofs.Engine.Publication
import RowPayload.Proofs.Sql.Rendering
import RowPayload.Proofs.Engine.Keys
import RowPayload.Proofs.Predicate.Numbering
import RowPayload.Proofs.Session.RoundTrip
import RowPayload.Proofs.Engine.InPlace
import RowPayload.Proofs.Engine.Querying
import RowPayload.Proofs.Engine.Locators
import RowPayload.Proofs.Engine.Accounts
import RowPayload.Proofs.Connection.Rewriting
import RowPayload.Proofs.Session.Borrowing
import RowPayload.Proofs.Command.Calls
import RowPayload.Proofs.Engine.TableNames
import RowPayload.Proofs.Session.Finished
import RowPayload.Proofs.Session.Rejection
import RowPayload.Proofs.Session.Projection
import RowPayload.Proofs.Record.Widths
import RowPayload.Proofs.Connection.Canonical
import RowPayload.Proofs.Engine.Indexing
import RowPayload.Proofs.Session.Creating
