import TableGateway.Config.Document
import TableGateway.Config.Environment
import TableGateway.Gateway
import TableGateway.Recorder
import TableGateway.Registry
import TableGateway.Sql.Engine
import TableGateway.Value.Encode
import TableGateway.Json.Reader
import TableGateway.Proofs.Connection
import TableGateway.Proofs.LifeCycle
import TableGateway.Proofs.Conversation
import TableGateway.Proofs.Operation
import TableGateway.Proofs.SoftFailure
import TableGateway.Proofs.Guard
import TableGateway.Proofs.Interleaving
import TableGateway.Proofs.Scan
import TableGateway.Proofs.Traverse
import TableGateway.Proofs.Alignment
import TableGateway.Proofs.Assembly
import TableGateway.Proofs.Numerals
import TableGateway.Proofs.Shape
import TableGateway.Proofs.Descriptor
import TableGateway.Proofs.Precedence
import TableGateway.Proofs.RowCount
import TableGateway.Proofs.Credentials
import TableGateway.Proofs.SharedDrivers
import TableGateway.Proofs.Increments
import TableGateway.Proofs.Spelling
import TableGateway.Proofs.Rendering
import TableGateway.Proofs.Rounding
import TableGateway.Proofs.JsonScan
import TableGateway.Proofs.WholeNumbers
import TableGateway.Proofs.Targets
import TableGateway.Proofs.Contribution
import TableGateway.Proofs.Step
import TableGateway.Proofs.Convergence
import TableGateway.Proofs.Reporting
import TableGateway.Proofs.Leading
import TableGateway.Proofs.Bodies
import TableGateway.Proofs.RowObject
import TableGateway.Proofs.Nearest
import TableGateway.Proofs.ShortestDecimal
import TableGateway.Proofs.RealNumerals
import TableGateway.Proofs.JsonText
import TableGateway.Proofs.RowText
import TableGateway.Proofs.RowIds
import TableGateway.Proofs.DateTimes
import TableGateway.Proofs.Tokens
import TableGateway.Proofs.Wordings
import TableGateway.Proofs.ExpressionMoves
import TableGateway.Proofs.Parsing
import TableGateway.Proofs.StoredMoves
import TableGateway.Proofs.Moves
import TableGateway.Proofs.FieldDescriptor
import TableGateway.Proofs.Qualification
import TableGateway.Proofs.RowMapping
import TableGateway.Proofs.ColumnOrder
import TableGateway.Proofs.Shortening
