import IfStatement.Main
import IfStatement.SourceTree
import IfStatement.Report.Guarded
import IfStatement.Proofs.Statement.Reading
import IfStatement.Proofs.Statement.Search
import IfStatement.Proofs.Statement.Grammar
import IfStatement.Proofs.Statement.Acceptance
import IfStatement.Proofs.Statement.Blame
import IfStatement.Proofs.Statement.Layout
import IfStatement.Proofs.Statement.Resuming
import IfStatement.Proofs.Statement.Renaming
import IfStatement.Proofs.Declarations.FirstMention
import IfStatement.Proofs.Declarations.Layout
import IfStatement.Proofs.Declarations.Embedding
import IfStatement.Proofs.Declarations.Blame
import IfStatement.Proofs.Declarations.Editing
import IfStatement.Proofs.Declarations.Session
import IfStatement.Proofs.Declarations.Renaming
import IfStatement.Proofs.Unicode.Classes
import IfStatement.Proofs.Text.Spelling
import IfStatement.Proofs.Text.Cutting
import IfStatement.Proofs.Text.Tiling
import IfStatement.Proofs.Text.Symbol
import IfStatement.Proofs.Text.RoundTrip
import IfStatement.Proofs.Text.InvalidCharacters
import IfStatement.Proofs.Text.Shifting
import IfStatement.Proofs.Text.Resuming
import IfStatement.Proofs.Text.Cursor
import IfStatement.Proofs.Text.Visible
import IfStatement.Proofs.Text.Joining
import IfStatement.Proofs.Position.LineStarts
import IfStatement.Proofs.Position.Lines
import IfStatement.Proofs.Position.Order
import IfStatement.Proofs.Position.Bijection
import IfStatement.Proofs.Position.Bounds
import IfStatement.Proofs.Json.Marks
import IfStatement.Proofs.Json.Reader
import IfStatement.Proofs.Json.Literals
import IfStatement.Proofs.Report.ErrorPlace
import IfStatement.Proofs.Report.Consistency
import IfStatement.Proofs.Report.TablePlaces
import IfStatement.Proofs.Report.Layout
import IfStatement.Proofs.Report.Decoding
import IfStatement.Proofs.Report.Bounds
import IfStatement.Proofs.CommandLine.Flags
import IfStatement.Proofs.Program.CheckModes
import IfStatement.Proofs.Program.TokenListing
import IfStatement.Proofs.Program.CommandForms
