import IfStatement.Proofs.Json.Reader
import IfStatement.Report.Document

/-! A report can be read back from its text, so that no two reports have one text. -/

namespace IfStatement

/-- All the phases. -/
def Phase.all : List Phase := [.io, .lexical, .grammar, .declaration]

/-- The phase that a report calls by the given name. -/
def Phase.ofName? (name : String) : Option Phase :=
  Phase.all.find? (·.name == name)

/-- All that a report can call its progress. -/
def Progress.all : List Progress := [.lexical, .grammar, .declaration, .done]

/-- The progress that a report calls by the given name. -/
def Progress.ofName? (name : String) : Option Progress :=
  Progress.all.find? (·.name == name)

/-- The text of a string. -/
def Json.string? : Json → Option String
  | .string text => some text
  | _ => none

/-- The value of a number. -/
def Json.number? : Json → Option Nat
  | .number value => some value
  | _ => none

/-- The value of a truth value. -/
def Json.bool? : Json → Option Bool
  | .bool value => some value
  | _ => none

/-- The member of an object that has the given name, read in the given way. -/
def Json.member? {α : Type} (name : String) (read : Json → Option α) : Json → Option α
  | .object members => (members.lookup name).bind read
  | _ => none

/-- A value that may be absent is null or read in the given way. -/
def Json.option? {α : Type} (read : Json → Option α) : Json → Option (Option α)
  | .null => some none
  | document => (read document).map some

/-- The elements of an array, each of them read in the given way. -/
def Json.list? {α : Type} (read : Json → Option α) : Json → Option (List α)
  | .array elements => elements.mapM read
  | _ => none

/-- A name that stands for one of the given kind of things. -/
def Json.named? {α : Type} (ofName? : String → Option α) (document : Json) : Option α :=
  document.string?.bind ofName?

/-- The row that a document describes. -/
def TableRow.ofJson? (document : Json) : Option TableRow := do
  let kind ← document.member? "kind" (Json.named? TokenKind.ofName?)
  let lexeme ← document.member? "lexeme" Json.string?
  let line ← document.member? "line" Json.number?
  let column ← document.member? "column" Json.number?
  return ⟨kind, lexeme, line, column⟩

/-- The diagnostic that a document describes. -/
def Diagnostic.ofJson? (document : Json) : Option Diagnostic := do
  let phase ← document.member? "phase" (Json.named? Phase.ofName?)
  let message ← document.member? "message" Json.string?
  let line ← document.member? "line" (Json.option? Json.number?)
  let column ← document.member? "column" (Json.option? Json.number?)
  return ⟨phase, message, line, column⟩

/-- The report that a document describes. -/
def Report.ofJson? (document : Json) : Option Report := do
  let success ← document.member? "success" Json.bool?
  let sourceFile ← document.member? "source_file" Json.string?
  let progress ← document.member? "progress" (Json.named? Progress.ofName?)
  let checkpoint ← document.member? "syntax_stage" (Json.option? (Json.named? Checkpoint.ofName?))
  let tokens ← document.member? "tokens" (Json.list? TableRow.ofJson?)
  let diagnostic ← document.member? "diagnostic" (Json.option? Diagnostic.ofJson?)
  return ⟨success, sourceFile, progress, checkpoint, tokens, diagnostic⟩

/-- The report that a text describes, whatever its layout. -/
def Report.parse? (text : String) : Option Report :=
  (Json.parse? text).bind Report.ofJson?

/-- What is looked up by its name is found when no two names are the same. -/
theorem find?_name {α : Type} {name : α → String} {all : List α} (distinct : (all.map name).Nodup)
    {value : α} (member : value ∈ all) : all.find? (name · == name value) = some value := by
  -- The search passes over the values in front, whose names are others.
  induction all with
  | nil => cases member
  | cons first rest ih =>
    obtain ⟨fresh, others⟩ := List.nodup_cons.mp distinct
    rcases List.mem_cons.mp member with rfl | later
    · simp
    · -- The value is not the first one, whose name no other has.
      have apart : name first ≠ name value := by
        intro same
        exact fresh (same ▸ List.mem_map_of_mem later)
      rw [List.find?_cons_of_neg (by simpa using apart)]
      exact ih others later

/-- A kind is found by its name. -/
theorem TokenKind.ofName?_name (kind : TokenKind) : TokenKind.ofName? kind.name = some kind :=
  find?_name (by decide) (by cases kind <;> decide)

/-- A checkpoint is found by its name. -/
theorem Checkpoint.ofName?_name (checkpoint : Checkpoint) :
    Checkpoint.ofName? checkpoint.name = some checkpoint :=
  find?_name (by decide) (by cases checkpoint <;> decide)

/-- A phase is found by its name. -/
theorem Phase.ofName?_name (phase : Phase) : Phase.ofName? phase.name = some phase :=
  find?_name (by decide) (by cases phase <;> decide)

/-- A progress is found by its name. -/
theorem Progress.ofName?_name (progress : Progress) :
    Progress.ofName? progress.name = some progress :=
  find?_name (by decide) (by cases progress <;> decide)

/-- An absent value is read back as absent, and any other as the value. -/
theorem Json.option?_ofOption {α : Type} {read : Json → Option α} {write : α → Json}
    (present : ∀ value, write value ≠ .null) (back : ∀ value, read (write value) = some value)
    (value : Option α) : Json.option? read (Json.ofOption write value) = some value := by
  cases value with
  | none => rfl
  | some value =>
    -- What is present is not written as null, and so it is not taken for absent.
    have read' : Json.option? read (write value) = (read (write value)).map some := by
      unfold Json.option?
      split
      · rename_i absent
        exact absurd absent (present value)
      · rfl
    rw [Json.ofOption, read', back, Option.map_some]

/-- Values are read back from an array when each of them is. -/
theorem Json.list?_map {α : Type} {read : Json → Option α} {write : α → Json}
    (back : ∀ value, read (write value) = some value) (values : List α) :
    Json.list? read (.array (values.map write)) = some values := by
  -- The first value is read back by itself, and the others as a shorter array.
  induction values with
  | nil => rfl
  | cons value rest ih =>
    rw [Json.list?] at ih ⊢
    simp [back, ih]

/-- A row is read back from its document. -/
theorem TableRow.ofJson?_toJson (row : TableRow) : TableRow.ofJson? row.toJson = some row := by
  -- Each member is looked up under the name that it is written with.
  simp [TableRow.ofJson?, TableRow.toJson, Json.member?, List.lookup_cons, Json.named?,
    Json.string?, Json.number?, TokenKind.ofName?_name]

/-- A diagnostic is read back from its document. -/
theorem Diagnostic.ofJson?_toJson (diagnostic : Diagnostic) :
    Diagnostic.ofJson? diagnostic.toJson = some diagnostic := by
  -- Line and column may both be absent, and are read back alike.
  have place : ∀ value, Json.option? Json.number? (Json.ofOption .number value) = some value :=
    Json.option?_ofOption (fun _ => Json.noConfusion) (fun _ => rfl)
  simp [Diagnostic.ofJson?, Diagnostic.toJson, Json.member?, List.lookup_cons, Json.named?,
    Json.string?, Phase.ofName?_name, place]

/-- A report is read back from its document. -/
theorem Report.ofJson?_toJson (report : Report) : Report.ofJson? report.toJson = some report := by
  -- The members that hold more than a plain value are read back first.
  have named : ∀ checkpoint : Checkpoint,
      Json.named? Checkpoint.ofName? (.string checkpoint.name) = some checkpoint :=
    Checkpoint.ofName?_name
  have checkpoint : ∀ value, Json.option? (Json.named? Checkpoint.ofName?)
      (Json.ofOption (fun checkpoint => .string checkpoint.name) value) = some value :=
    Json.option?_ofOption (fun _ => Json.noConfusion) named
  have rows : Json.list? TableRow.ofJson? (tableJson report.tokens) = some report.tokens :=
    Json.list?_map TableRow.ofJson?_toJson report.tokens
  have diagnostic : ∀ value,
      Json.option? Diagnostic.ofJson? (Json.ofOption Diagnostic.toJson value) = some value :=
    Json.option?_ofOption (fun _ => Json.noConfusion) Diagnostic.ofJson?_toJson
  simp [Report.ofJson?, Report.toJson, Json.member?, List.lookup_cons, Json.bool?, Json.string?,
    Json.named?, Progress.ofName?_name, rows, diagnostic, checkpoint]

/-- A report is read back from its text in any blank layout. -/
theorem Report.parse?_render {layout : Layout} (blank : layout.Blank) (report : Report) :
    Report.parse? (report.render layout) = some report := by
  rw [Report.parse?, Report.render, Json.parse?_render blank, Option.bind_some,
    Report.ofJson?_toJson]

/--
One reader gives every report back from its pretty text and from its compact one.

No two reports therefore have the same text in either layout.
-/
theorem Report.render_lossless :
    (∀ report : Report, Report.parse? (report.render .pretty) = some report ∧
      Report.parse? (report.render .compact) = some report) ∧
    Function.Injective (fun report : Report => report.render .pretty) ∧
    Function.Injective (fun report : Report => report.render .compact) := by
  have pretty := Report.parse?_render Layout.blank_pretty
  have compact := Report.parse?_render Layout.blank_compact
  -- Reports of one text are what the reader gives for that text.
  have injective : ∀ {layout : Layout},
      (∀ report : Report, Report.parse? (report.render layout) = some report) →
      Function.Injective (fun report : Report => report.render layout) := by
    intro layout back left right same
    have read := congrArg Report.parse? same
    simp only [back] at read
    exact Option.some.inj read
  exact ⟨fun report => ⟨pretty report, compact report⟩, injective pretty, injective compact⟩

end IfStatement
