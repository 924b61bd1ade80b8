/-! Files by path, and what reading and writing them leads to. -/

namespace PowerGovernor

/-- A path by its components. -/
abbrev Path := List String

/-- A path with a slash between its components. -/
def Path.text (path : Path) : String :=
  "/".intercalate path

/-- What stands at a path. -/
inductive Entry where
  | file (bytes : ByteArray)
  | directory

/-- Why a file cannot be read or written. -/
inductive FileFault where
  | notFound
  | notDirectory
  | isDirectory
  | badText
  | tooShort
deriving DecidableEq

/-- The wording of a file fault. -/
def FileFault.message : FileFault → String
  | .notFound => "No such file or directory (os error 2)"
  | .notDirectory => "Not a directory (os error 20)"
  | .isDirectory => "Is a directory (os error 21)"
  | .badText => "stream did not contain valid UTF-8"
  | .tooShort => "failed to fill whole buffer"

/-- The files and directories of a machine. -/
def FileTree := Path → Option Entry

namespace FileTree

/-- What stands at a path of the tree. -/
def get? (tree : FileTree) (path : Path) : Option Entry := tree path

/-- The tree that holds nothing but one directory. -/
def rooted (root : Path) : FileTree :=
  fun path => if path = root then some .directory else none

/-- Replaces what stands at one path. -/
def set (tree : FileTree) (path : Path) (entry : Option Entry) : FileTree :=
  fun other => if other = path then entry else tree other

/-- A path that was replaced holds what it was replaced by, and the others are left alone. -/
@[simp] theorem get?_set (tree : FileTree) (path : Path) (entry : Option Entry)
    (other : Path) :
    (tree.set path entry).get? other = if other = path then entry else tree.get? other := rfl

/-- Removes a path and everything below it. -/
def remove (tree : FileTree) (path : Path) : FileTree :=
  fun other => if path.isPrefixOf other then none else tree other

/-- Makes every path between a directory and a path below it a directory. -/
def makeParents (tree : FileTree) (top : Path) : Path → FileTree
  | [] => tree
  | [_] => tree
  | name :: rest => (tree.set (top ++ [name]) (some .directory)).makeParents (top ++ [name]) rest

/-- Places an entry below a directory, instead of whatever was there. -/
def place (tree : FileTree) (top path : Path) (entry : Entry) : FileTree :=
  ((tree.remove (top ++ path)).makeParents top path).set (top ++ path) (some entry)

/-- Whether a path leads through a file. -/
def blocked (tree : FileTree) (path : Path) : Bool :=
  (List.range path.length).any fun length =>
    match tree (path.take length) with
    | some (.file _) => true
    | _ => false

/-- Why nothing stands at a path. -/
def absence (tree : FileTree) (path : Path) : FileFault :=
  if tree.blocked path then .notDirectory else .notFound

/-- Whether a path can be opened for reading; a directory can. -/
def canOpen (tree : FileTree) (path : Path) : Bool :=
  (tree path).isSome

/-- The bytes of a file. -/
def readBytes (tree : FileTree) (path : Path) : Except FileFault ByteArray :=
  match tree path with
  | some (.file bytes) => .ok bytes
  | some .directory => .error .isDirectory
  | none => .error (tree.absence path)

/-- The text of a file. -/
def readText (tree : FileTree) (path : Path) : Except FileFault String :=
  match tree.readBytes path with
  | .ok bytes =>
    match String.fromUTF8? bytes with
    | some text => .ok text
    | none => .error .badText
  | .error fault => .error fault

/-- Why a file cannot be written at a path; a missing file can, in a directory that exists. -/
def writeFault? (tree : FileTree) (path : Path) : Option FileFault :=
  match tree path with
  | some (.file _) => none
  | some .directory => some .isDirectory
  | none =>
    match tree path.dropLast with
    | some .directory => none
    | _ => some (tree.absence path)

/-- Writes a text to a file. -/
def writeText (tree : FileTree) (path : Path) (text : String) : Except FileFault FileTree :=
  match tree.writeFault? path with
  | some fault => .error fault
  | none => .ok (tree.set path (some (.file text.toUTF8)))

/-- A write that succeeds leaves the text at its path and every other path alone. -/
theorem get?_writeText {tree next : FileTree} {path : Path} {text : String}
    (written : tree.writeText path text = .ok next) (other : Path) :
    next.get? other =
      if other = path then some (.file text.toUTF8) else tree.get? other := by
  -- Only a path without a fault is written to.
  unfold writeText at written
  split at written
  · cases written
  · cases written
    exact get?_set tree path _ other

/-- A file that holds the bytes of a text is read as that text. -/
theorem readText_of_file {tree : FileTree} {path : Path} {text : String}
    (there : tree.get? path = some (.file text.toUTF8)) : tree.readText path = .ok text := by
  have holds : tree path = some (.file text.toUTF8) := there
  -- The bytes of a text are valid, and they are those of no other text.
  have back : String.fromUTF8? text.toUTF8 = some text := dif_pos text.isValidUTF8
  simp only [readText, readBytes, holds, back]

end FileTree

end PowerGovernor
