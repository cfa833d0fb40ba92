import IfStatement.Json
import IfStatement.Report

/-! Reports and token tables are written as JSON documents with a fixed order of members. -/

namespace IfStatement

/-- An absent value is written as null. -/
def Json.ofOption {α : Type} (write : α → Json) : Option α → Json
  | none => .null
  | some value => write value

/-- The document of one row of the token table. -/
def TableRow.toJson (row : TableRow) : Json :=
  .object [("kind", .string row.kind.name), ("lexeme", .string row.lexeme),
    ("line", .number row.line), ("column", .number row.column)]

/-- The document of a diagnostic, whose place is null when it has none. -/
def Diagnostic.toJson (diagnostic : Diagnostic) : Json :=
  .object [("phase", .string diagnostic.phase.name), ("message", .string diagnostic.message),
    ("line", .ofOption .number diagnostic.line), ("column", .ofOption .number diagnostic.column)]

/-- The document of a token table is the array of its rows. -/
def tableJson (rows : List TableRow) : Json :=
  .array (rows.map TableRow.toJson)

/-- The document of a report. -/
def Report.toJson (report : Report) : Json :=
  .object [("success", .bool report.success), ("source_file", .string report.sourceFile),
    ("progress", .string report.progress.name),
    ("syntax_stage", .ofOption (fun checkpoint => .string checkpoint.name) report.checkpoint),
    ("tokens", tableJson report.tokens),
    ("diagnostic", .ofOption Diagnostic.toJson report.diagnostic)]

/-- The text of a report in the given layout. -/
def Report.render (report : Report) (layout : Layout) : String :=
  report.toJson.render layout

end IfStatement
