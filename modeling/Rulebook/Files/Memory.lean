import Rulebook.Files.Basic
import Rulebook.Files.Path
import Rulebook.Glob.Stored
import Rulebook.Sorted.Map
import Rulebook.Text.Utf8

/-!
# Files in memory

Files are kept under the names that lead to them from the top, in the order of paths, so that every
spelling of a path finds the same file. A directory is there as long as some file lies in it.
-/

namespace Rulebook

/-- Names on a way from the top are compared one by one. -/
instance leNames : LE (List String) := List.instLE

/-- Files by the names that lead to them from the top. -/
structure MemoryFiles where
  root : List String
  files : SortedMap (List String) ByteArray

namespace MemoryFiles

/-- No files, with a root given by its path. -/
def empty (root : String) : MemoryFiles := ⟨Path.resolve [] root, ∅⟩

def rootPath (m : MemoryFiles) : String := Path.ofNames m.root

/-- The names that a path leads to. -/
def key (m : MemoryFiles) (path : String) : List String := Path.resolve m.root path

/-- Adds a file, in the place of the one that was there. -/
def add (m : MemoryFiles) (path : String) (content : ByteArray) : MemoryFiles :=
  { m with files := m.files.insert (m.key path) content }

/-- Removes a file if it is there. -/
def remove (m : MemoryFiles) (path : String) : MemoryFiles :=
  { m with files := m.files.erase (m.key path) }

def content? (m : MemoryFiles) (key : List String) : Option ByteArray := m.files.find? key

/-- Removes a file, and tells whether it was there. -/
def removeFile (m : MemoryFiles) (path : String) : Bool × MemoryFiles :=
  ((m.content? (m.key path)).isSome, m.remove path)

/-- Whether some other file lies below the names. -/
def isDir (m : MemoryFiles) (key : List String) : Bool :=
  m.files.keys.any fun k => k ≠ key && key.isPrefixOf k

def isThere (m : MemoryFiles) (path : String) : Bool :=
  let key := m.key path
  (m.content? key).isSome || m.isDir key

def metadata (m : MemoryFiles) (path : String) : Metadata :=
  let key := m.key path
  match m.content? key with
  | some bytes => .file bytes.size
  | none => if m.isDir key then .directory else .missing

def read (m : MemoryFiles) (path : String) : Except IoError String :=
  let key := m.key path
  match m.content? key with
  | some bytes =>
    match Text.decodeUtf8 bytes with
    | .ok s => .ok s
    | .error f => .error ⟨.invalidData, f.message⟩
  | none =>
    if m.isDir key then .error ⟨.invalidInput, s!"Is a directory: {path}"⟩
    else .error ⟨.notFound, s!"File not found: {path}"⟩

/-- The pattern over whole paths that a pattern given by the user stands for: the root taken
literally in front of a relative one. -/
def fullPattern (m : MemoryFiles) (pattern : String) : String :=
  if Path.isAbsolute pattern then pattern
  else
    let root := Glob.Stored.escape m.rootPath
    let trimmed := (root.toList.reverse.dropWhile (· = '/')).reverse
    String.ofList trimmed ++ "/" ++ pattern

/-- The files below the root as relative names. -/
def belowRoot (m : MemoryFiles) (key : List String) : String :=
  if m.root.isPrefixOf key then "/".intercalate (key.drop m.root.length) else Path.ofNames key

def glob (m : MemoryFiles) (pattern : String) : Except GlobError (List String) := do
  let fault (f : Glob.Stored.Fault) : GlobError := ⟨pattern, f.message⟩
  let _ ← (Glob.Stored.parse pattern).mapError fault
  let parts ← (Glob.Stored.parse (m.fullPattern pattern)).mapError fault
  let keys := m.files.keys.filter fun k => Glob.Stored.isMatch parts (Path.ofNames k)
  return keys.map fun k => if Path.isAbsolute pattern then Path.ofNames k else m.belowRoot k

/-- Files in memory as a file system. -/
def toFileSystem (m : MemoryFiles) : FileSystem where
  root := m.rootPath
  isThere path := .ok (m.isThere path)
  read := m.read
  metadata path := .ok (m.metadata path)
  glob := m.glob

end MemoryFiles

end Rulebook
