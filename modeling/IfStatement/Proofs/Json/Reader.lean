import IfStatement.Proofs.Json.Marks

/-! A document is put together from its marks, so that its text can be read back in any layout. -/

namespace IfStatement

/-- A frame is an array or an object that is not closed yet, around what is being read. -/
inductive Frame where
  /-- An array with the elements read so far. -/
  | array (elements : List Json)
  /-- An object with the members read so far, and the name whose value is being read. -/
  | object (members : List (String × Json)) (name : String)

/-- A reader knows what it expects next and the frames around it, the innermost one first. -/
inductive Reader where
  /-- A value comes next, or the end of the array that was just opened. -/
  | beforeValue (closable : Bool) (frames : List Frame)
  /-- A comma or the end of the array comes next. -/
  | afterElement (elements : List Json) (frames : List Frame)
  /-- A name comes next, or the end of the object that was just opened. -/
  | beforeName (closable : Bool) (members : List (String × Json)) (frames : List Frame)
  /-- The colon behind the name comes next. -/
  | beforeColon (members : List (String × Json)) (name : String) (frames : List Frame)
  /-- A comma or the end of the object comes next. -/
  | afterMember (members : List (String × Json)) (frames : List Frame)
  /-- The whole document has been read. -/
  | done (document : Json)

/-- A value that is complete belongs to the innermost frame, or is the document without one. -/
def Reader.complete (value : Json) : List Frame → Reader
  | [] => .done value
  | .array elements :: frames => .afterElement (elements ++ [value]) frames
  | .object members name :: frames => .afterMember (members ++ [(name, value)]) frames

/-- A reader takes the next mark if it is one that it expects. -/
def Reader.take : Reader → Mark → Option Reader
  | .beforeValue _ frames, .scalar value => some (.complete value frames)
  | .beforeValue _ frames, .string text => some (.complete (.string text) frames)
  | .beforeValue _ frames, .openBracket => some (.beforeValue true (.array [] :: frames))
  | .beforeValue _ frames, .openBrace => some (.beforeName true [] frames)
  | .beforeValue true (.array elements :: frames), .closeBracket =>
    some (.complete (.array elements) frames)
  | .afterElement elements frames, .comma =>
    some (.beforeValue false (.array elements :: frames))
  | .afterElement elements frames, .closeBracket => some (.complete (.array elements) frames)
  | .beforeName _ members frames, .string name => some (.beforeColon members name frames)
  | .beforeName true members frames, .closeBrace => some (.complete (.object members) frames)
  | .beforeColon members name frames, .colon =>
    some (.beforeValue false (.object members name :: frames))
  | .afterMember members frames, .comma => some (.beforeName false members frames)
  | .afterMember members frames, .closeBrace => some (.complete (.object members) frames)
  | _, _ => none

/-- A reader takes marks in turn, and fails at one that it does not expect. -/
def Reader.takeAll (reader : Reader) (marks : List Mark) : Option Reader :=
  marks.foldlM Reader.take reader

/-- The document of a reader that has read all of it. -/
def Reader.document? : Reader → Option Json
  | .done document => some document
  | _ => none

/-- The document that a text is one way to write, if it is a well-formed text. -/
def Json.parse? (text : String) : Option Json := do
  let marks ← readMarks .between text.toList
  let reader ← (Reader.beforeValue false []).takeAll marks
  reader.document?

/-- Taking one more mark first takes that mark. -/
theorem Reader.takeAll_cons (reader : Reader) (mark : Mark) (rest : List Mark) :
    reader.takeAll (mark :: rest) = (reader.take mark).bind fun next => next.takeAll rest := rfl

/-- Taking two lists of marks goes on with the second from where the first has led. -/
theorem Reader.takeAll_append (reader : Reader) (front back : List Mark) :
    reader.takeAll (front ++ back) =
      (reader.takeAll front).bind fun next => next.takeAll back := by
  -- The fold over an append is the fold over its parts.
  simp only [Reader.takeAll, List.foldlM_append]
  rfl

/-- A value completes itself when its marks lead to it, whatever frames are around it. -/
def Completes (value : Json) : Prop :=
  ∀ closable frames,
    (Reader.beforeValue closable frames).takeAll value.marks = some (.complete value frames)

/-- Each element of an array has the marks of a value. -/
theorem Json.elementMarks_eq_map (elements : List Json) :
    Json.elementMarks elements = elements.map Json.marks := by
  -- The recursion of the definition is that of the map.
  induction elements with
  | nil => rfl
  | cons element rest ih => rw [Json.elementMarks, ih, List.map_cons]

/-- Each member of an object has the marks of its name, a colon and its value. -/
theorem Json.memberMarks_eq_map (members : List (String × Json)) :
    Json.memberMarks members =
      members.map fun member => .string member.1 :: .colon :: member.2.marks := by
  induction members with
  | nil => rfl
  | cons member rest ih => rw [Json.memberMarks, ih, List.map_cons]

/-- Items between commas are added one by one to those that are there already. -/
theorem Reader.takeAll_intercalate {Item : Type} (marks : Item → List Mark)
    (start : Bool → List Item → Reader) (stop : List Item → Reader)
    (comma : ∀ before, (stop before).take .comma = some (start false before))
    {item : Item} {rest : List Item}
    (each : ∀ entry ∈ item :: rest, ∀ closable before,
      (start closable before).takeAll (marks entry) = some (stop (before ++ [entry])))
    (closable : Bool) (before : List Item) :
    (start closable before).takeAll ([Mark.comma].intercalate ((item :: rest).map marks)) =
      some (stop (before ++ item :: rest)) := by
  obtain ⟨first, others⟩ := List.forall_mem_cons.mp each
  -- The induction is on the later items, and what is there already grows by each one.
  induction rest generalizing item closable before with
  | nil => simpa using first closable before
  | cons next rest ih =>
    -- Behind the comma, the first item is one of those that are there already.
    have added := ih others false (before ++ [item]) (List.forall_mem_cons.mp others).1
      (List.forall_mem_cons.mp others).2
    rw [List.append_assoc, List.singleton_append, List.map_cons] at added
    rw [List.map_cons, List.map_cons, List.intercalate_cons_cons, List.append_assoc,
      Reader.takeAll_append, first, Option.bind_some, List.singleton_append, Reader.takeAll_cons,
      comma, Option.bind_some]
    exact added

/-- An array completes itself when all its elements do. -/
theorem Completes.array {elements : List Json} (each : ∀ element ∈ elements, Completes element) :
    Completes (.array elements) := by
  intro closable frames
  cases elements with
  -- The closing bracket is expected where the first element would be.
  | nil => rfl
  | cons element rest =>
    -- The bracket opens a frame, the elements fill it, and the other bracket closes it.
    have opened : (Reader.beforeValue closable frames).take .openBracket =
        some (.beforeValue true (.array [] :: frames)) := rfl
    have filled := Reader.takeAll_intercalate Json.marks
      (fun closable before => .beforeValue closable (.array before :: frames))
      (fun before => .afterElement before frames) (fun _ => rfl)
      (fun value member closable before => each value member closable (.array before :: frames))
      true []
    rw [Json.marks, Json.elementMarks_eq_map, List.cons_append, Reader.takeAll_cons, opened,
      Option.bind_some, Reader.takeAll_append, filled]
    rfl

/-- An object completes itself when all its values do. -/
theorem Completes.object {members : List (String × Json)}
    (each : ∀ member ∈ members, Completes member.2) : Completes (.object members) := by
  intro closable frames
  cases members with
  -- The closing brace is expected where the first name would be.
  | nil => rfl
  | cons member rest =>
    -- Each name and its colon lead to where the value of the member is read.
    have opened : (Reader.beforeValue closable frames).take .openBrace =
        some (.beforeName true [] frames) := rfl
    have filled := Reader.takeAll_intercalate
      (fun member : String × Json => .string member.1 :: .colon :: member.2.marks)
      (fun closable before => .beforeName closable before frames)
      (fun before => .afterMember before frames) (fun _ => rfl)
      (fun entry member _ before => each entry member false (.object before entry.1 :: frames))
      true []
    rw [Json.marks, Json.memberMarks_eq_map, List.cons_append, Reader.takeAll_cons, opened,
      Option.bind_some, Reader.takeAll_append, filled]
    rfl

mutual

/-- Every value completes itself. -/
theorem Json.completes : ∀ value : Json, Completes value
  | .null | .bool _ | .number _ | .string _ => fun _ _ => rfl
  | .array elements => .array (Json.completes_elements elements)
  | .object members => .object (Json.completes_members members)

/-- Every element of an array completes itself. -/
theorem Json.completes_elements : ∀ elements : List Json, ∀ element ∈ elements, Completes element
  | [] => List.forall_mem_nil _
  | element :: rest =>
    List.forall_mem_cons.mpr ⟨element.completes, Json.completes_elements rest⟩

/-- Every value of an object completes itself. -/
theorem Json.completes_members :
    ∀ members : List (String × Json), ∀ member ∈ members, Completes member.2
  | [] => List.forall_mem_nil _
  | (_, value) :: rest => List.forall_mem_cons.mpr ⟨value.completes, Json.completes_members rest⟩

end

/-- A document can be read back from its text in any blank layout, with blanks behind it. -/
theorem Json.parse?_render_blanks {layout : Layout} (blank : layout.Blank) (document : Json)
    {blanks : String} (behind : ∀ character ∈ blanks.toList, isBlank character) :
    Json.parse? (document.render layout ++ blanks) = some document := by
  have ends : NoDigitNext [] := nofun
  have nothing : ReadsAs [] [] := rfl
  -- First the text is read as the marks of the document, and then the marks as the document.
  have marks := document.reads_write blank 0 blanks.toList []
    (by simpa using noDigitNext_of_blank behind ends) (by simpa using nothing.blanks behind)
  rw [List.append_nil] at marks
  have written : (document.render layout ++ blanks).toList =
      document.write layout 0 ++ blanks.toList := by
    rw [String.toList_append, Json.render, String.toList_ofList]
  rw [Json.parse?, written, marks]
  -- Without a frame around it, the completed value is the document.
  have completed := document.completes false []
  simp [completed, Reader.complete, Reader.document?]

/-- A document can be read back from its text in any blank layout. -/
theorem Json.parse?_render {layout : Layout} (blank : layout.Blank) (document : Json) :
    Json.parse? (document.render layout) = some document := by
  have nothing : document.render layout ++ "" = document.render layout := String.append_empty
  rw [← nothing]
  exact Json.parse?_render_blanks blank document nofun

end IfStatement
