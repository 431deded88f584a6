import Rulebook.Files.Basic
import Rulebook.Files.Path
import Rulebook.Glob.Walk
import Rulebook.Text.Utf8

/-!
# Files in a tree of directories

The files of a disk, as a tree. A path is followed name by name: every name but the last has to be
a directory, and so does what stands before a slash, a `.` or a `..`. Unlike in memory, a path is
not simplified before it is followed.
-/

namespace Rulebook

/-- A file or a directory. -/
inductive FileEntry where
  | file (content : ByteArray)
  | dir (entries : List (String × FileEntry))
  deriving Inhabited

namespace FileEntry

def isDir : FileEntry → Bool
  | dir _ => true
  | file _ => false

def find? (entries : List (String × FileEntry)) (name : String) : Option FileEntry :=
  (entries.find? fun e => e.1 = name).map Prod.snd

/-- The entry that names lead to. -/
def at? : FileEntry → List String → Option FileEntry
  | e, [] => some e
  | file _, _ :: _ => none
  | dir entries, name :: names => (find? entries name).bind fun e => e.at? names

/-- Adds what a list of names leads to, with the directories on the way. -/
def add (entry : FileEntry) : List String → FileEntry → FileEntry
  | [], here =>
    match entry, here with
    | dir [], dir entries => dir entries
    | _, _ => entry
  | name :: names, here =>
    let entries := match here with
      | dir entries => entries
      | file _ => []
    let below := (find? entries name).getD (dir [])
    dir ((entries.filter fun e => e.1 ≠ name) ++ [(name, add entry names below)])

mutual

/-- The number of levels of directories. -/
def height : FileEntry → Nat
  | file _ => 0
  | dir entries => heights entries + 1

def heights : List (String × FileEntry) → Nat
  | [] => 0
  | (_, e) :: es => max e.height (heights es)

end

end FileEntry

/-- A tree with the names of the directory from which relative paths are taken. -/
structure FileTree where
  top : FileEntry
  root : List String

/-- Why a path leads to nothing. -/
inductive FileTree.Fault where
  | missing
  | notADirectory
  | badName
  deriving Repr, DecidableEq

namespace FileTree

def Fault.toIoError : Fault → IoError
  | missing => ⟨.notFound, "No such file or directory (os error 2)"⟩
  | notADirectory => ⟨.notADirectory, "Not a directory (os error 20)"⟩
  | badName => ⟨.invalidInput, "file name contained an unexpected NUL byte"⟩

/-- One step from the entry that names lead to. -/
def step (top : FileEntry) (names : List String) (segment : String) :
    Except Fault (List String) :=
  match top.at? names with
  | some (.dir entries) =>
    if segment = "" || segment = "." then .ok names
    else if segment = ".." then .ok names.dropLast
    else if (FileEntry.find? entries segment).isSome then .ok (names ++ [segment])
    else .error .missing
  | some (.file _) => .error .notADirectory
  | none => .error .missing

/-- Follows an absolute path. -/
def follow (top : FileEntry) (path : String) : Except Fault (List String × FileEntry) := do
  if path.toList.contains '\x00' then .error .badName
  if path = "" then .error .missing
  let names ← (Path.segments path).tail.foldlM (step top) []
  match top.at? names with
  | some e => return (names, e)
  | none => .error .missing

def rootPath (t : FileTree) : String := Path.ofNames t.root

/-- What a path leads to; a relative one is taken from the root. -/
def entry (t : FileTree) (path : String) : Except Fault FileEntry :=
  (follow t.top (Path.join t.rootPath path)).map Prod.snd

def isThere (t : FileTree) (path : String) : Bool :=
  match t.entry path with
  | .ok _ => true
  | .error _ => false

def metadata (t : FileTree) (path : String) : Except IoError Metadata :=
  match t.entry path with
  | .ok (.file content) => .ok (.file content.size)
  | .ok (.dir _) => .ok .directory
  | .error .missing => .ok .missing
  | .error f => .error f.toIoError

def read (t : FileTree) (path : String) : Except IoError String :=
  match t.entry path with
  | .ok (.file content) =>
    match Text.decodeUtf8 content with
    | .ok s => .ok s
    | .error _ => .error ⟨.invalidData, "stream did not contain valid UTF-8"⟩
  | .ok (.dir _) => .error ⟨.isADirectory, "Is a directory (os error 21)"⟩
  | .error f => .error f.toIoError

/-! ## Patterns -/

/-- What stands at an absolute path. -/
def lookup (top : FileEntry) (path : String) : Option FileEntry :=
  match follow top path with
  | .ok (_, e) => some e
  | .error _ => none

def isDirAt (top : FileEntry) (path : String) : Bool := (lookup top path).any FileEntry.isDir

/-- A match, unless it has to be a directory and is none. -/
def accept (top : FileEntry) (needDir : Bool) (path : String) : List String :=
  if needDir && !isDirAt top path then [] else [path]

/-- Whether a pattern for a name stands for any number of directories. -/
def isRecursive (parts : List Glob.Walk.Part) : Bool := parts.contains .doubleStar

mutual

/-- The paths below a path that a list of patterns for names leads to. A pattern without wildcards
is looked up, any other is held against the entries of the directory. -/
def below (top : FileEntry) (needDir : Bool) :
    Nat → List (List Glob.Walk.Part) → String → List String
  | 0, _, _ => []
  | _, [], _ => []
  | fuel + 1, p :: ps, path =>
    let go (next : String) : List String :=
      if ps.isEmpty then accept top needDir next else below top needDir fuel ps next
    match Glob.Walk.literalName? p with
    | some name =>
      let next := Path.join path name
      let isSpecial := name = "." || name = ".."
      if (isSpecial && isDirAt top path) || (!isSpecial && (lookup top next).isSome) then go next
      else []
    | none =>
      match lookup top path with
      | some (.dir entries) =>
        let found := entries.flatMap fun e =>
          visit top needDir fuel p ps e.1 (Path.join path e.1) e.2.isDir
        let specials := if p.head? = some (.literal '.') then
            [".", ".."].filter (Glob.Walk.isMatch p)
          else []
        found ++ specials.flatMap fun s => go (Path.join path s)
      | _ => []

/-- What an entry of a directory contributes. A `**` lists the directories below, and goes on with
the pattern after it at every level. -/
def visit (top : FileEntry) (needDir : Bool) :
    Nat → List Glob.Walk.Part → List (List Glob.Walk.Part) → String → String → Bool → List String
  | 0, _, _, _, _, _ => []
  | fuel + 1, p, ps, name, path, isDir =>
    if isRecursive p then
      let rest := ps.dropWhile isRecursive
      let deeper := if isDir then below top needDir fuel (p :: rest) path else []
      match rest with
      | [] => if isDir then path :: deeper else []
      | q :: qs => deeper ++ named top needDir fuel q qs name path
    else named top needDir fuel p ps name path

/-- What an entry contributes when its name has to match. -/
def named (top : FileEntry) (needDir : Bool) :
    Nat → List Glob.Walk.Part → List (List Glob.Walk.Part) → String → String → List String
  | 0, _, _, _, _ => []
  | fuel + 1, p, ps, name, path =>
    if Glob.Walk.isMatch p name then
      if ps.isEmpty then accept top needDir path else below top needDir fuel ps path
    else []

end

/-- The texts between slashes, without an empty one at the end. -/
def nameTexts (cs : List Char) : List (List Char) :=
  let ss := Text.split '/' cs
  if ss.getLast? = some [] then ss.dropLast else ss

/-- The paths that an absolute pattern matches, in no particular order. -/
def expand (top : FileEntry) (pattern : String) : Except Glob.Walk.Fault (List String) := do
  let _ ← Glob.Walk.parse pattern
  let cs := pattern.toList
  let needDir := cs.getLast? = some '/'
  let names := nameTexts cs.tail
  let patterns ← names.mapM fun n => Glob.Walk.parse (String.ofList n)
  let patterns := if cs.length = 1 then [[]] else patterns
  let fuel := 3 * (patterns.length + 1) * (top.height + 2)
  return below top needDir fuel patterns "/"

/-- A path as seen from the root, if it lies below it. Slashes and `.` at its ends do not count. -/
def belowRoot (t : FileTree) (path : String) : String :=
  let rec strip : List String → List String → Option (List String)
    | [], ss => some ss
    | _ :: _, [] => none
    | n :: ns, s :: ss =>
      if s = "" || s = "." then strip (n :: ns) ss
      else if s = n then strip ns ss
      else none
  match strip t.root (Path.segments path).tail with
  | none => path
  | some ss =>
    let blank (s : String) : Bool := s = "" || s = "."
    "/".intercalate (((ss.dropWhile blank).reverse.dropWhile blank).reverse)

def glob (t : FileTree) (pattern : String) : Except GlobError (List String) := do
  let fault (f : Glob.Walk.Fault) : GlobError := ⟨pattern, f.message⟩
  let _ ← (Glob.Walk.parse pattern).mapError fault
  let full :=
    if Path.isAbsolute pattern then pattern
    else Glob.Walk.escape t.rootPath ++ "/" ++ pattern
  let paths ← (expand t.top full).mapError fault
  return Path.sort (if Path.isAbsolute pattern then paths else paths.map t.belowRoot)

/-- A tree as a file system. -/
def toFileSystem (t : FileTree) : FileSystem where
  root := t.rootPath
  isThere path := .ok (t.isThere path)
  read := t.read
  metadata := t.metadata
  glob := t.glob

/-- Takes a directory of a tree, given by an absolute path, as the root. -/
def openAt (top : FileEntry) (path : String) : Except IoError FileTree :=
  match follow top path with
  | .ok (names, .dir _) => .ok ⟨top, names⟩
  | .ok (names, .file _) =>
    .error ⟨.invalidInput, s!"Root is not a directory: {Path.ofNames names}"⟩
  | .error f => .error ⟨f.toIoError.kind, s!"Root does not exist: {path}"⟩

end FileTree

end Rulebook
