import IfStatement.SourceFile

/-! A source tree stands for a directory and finds files below it by their names. -/

namespace IfStatement

/-- A source tree lists files with their bytes, and directories without any. -/
structure SourceTree where
  /-- The paths below the root, each with the bytes of a file or nothing for a directory. -/
  entries : List (List String × Option ByteArray)

/-- The root is a directory, and so is whatever is listed as one or has something below it. -/
def SourceTree.isDirectory (tree : SourceTree) (path : List String) : Bool :=
  path.isEmpty || tree.entries.any fun (entry, bytes) =>
    path.isPrefixOf entry && (bytes.isNone || path.length < entry.length)

/-- The bytes of the file at a path. -/
def SourceTree.bytesAt? (tree : SourceTree) (path : List String) : Option ByteArray :=
  tree.entries.findSome? fun (entry, bytes) => if entry = path then bytes else none

/--
Follows the parts of a name from a directory, which is `none` above the root of the tree.

Nothing above the root is known except that it consists of directories.
-/
def SourceTree.follow (tree : SourceTree) :
    Option (List String) → List String → Except ReadFailure ByteArray
  | _, [] => .error .isDirectory
  | directory, part :: rest =>
    if part = "" ∨ part = "." then tree.follow directory rest
    else if part = ".." then
      match directory with
      | none | some [] => tree.follow none rest
      | some path => tree.follow (some path.dropLast) rest
    else
      match directory with
      | none => .error .notFound
      | some parent =>
        let path := parent ++ [part]
        if tree.isDirectory path then tree.follow (some path) rest
        else
          match tree.bytesAt? path with
          | none => .error .notFound
          | some bytes => if rest.isEmpty then .ok bytes else .error .notDirectory

/-- A name is split at slashes, and one that starts with a slash is followed from above the root. -/
def SourceTree.read (tree : SourceTree) (name : String) : Except ReadFailure String :=
  if name = "" then .error .notFound
  else
    let start := if name.toList.head? = some '/' then none else some []
    match tree.follow start (name.splitOn "/") with
    | .ok bytes => decodeText bytes
    | .error failure => .error failure

/-- A relative name leads to the path of its parts, where empty parts and dots lead nowhere. -/
def pathOf (name : String) : List String :=
  (name.splitOn "/").filter fun part => part ≠ "" ∧ part ≠ "."

/-- A tree of named files and directories, in which a directory has no bytes. -/
def SourceTree.ofNames (names : List (String × Option ByteArray)) : SourceTree :=
  ⟨names.map fun (name, bytes) => (pathOf name, bytes)⟩

end IfStatement
