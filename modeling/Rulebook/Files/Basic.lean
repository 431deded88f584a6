/-!
# File systems

What the program needs of a place where files are kept: whether a path exists, what it is, what a
file holds, and which paths a pattern matches. Relative paths and patterns are taken from the root,
and paths that match a relative pattern are relative.
-/

namespace Rulebook

/-- The kinds of failure that reading files can meet. -/
inductive IoErrorKind where
  | notFound
  | permissionDenied
  | invalidInput
  | invalidData
  | isADirectory
  | notADirectory
  deriving Repr, DecidableEq

/-- A failure to read, with its text. -/
structure IoError where
  kind : IoErrorKind
  message : String
  deriving Repr, DecidableEq

/-- What is known of a path without reading it. -/
structure Metadata where
  isThere : Bool
  isFile : Bool
  isDir : Bool
  size : Nat
  deriving Repr, DecidableEq

namespace Metadata

def missing : Metadata := ⟨false, false, false, 0⟩

def file (size : Nat) : Metadata := ⟨true, true, false, size⟩

def directory : Metadata := ⟨true, false, true, 0⟩

end Metadata

/-- A pattern that breaks a rule of its notation. -/
structure GlobError where
  pattern : String
  reason : String
  deriving Repr, DecidableEq

def GlobError.message (e : GlobError) : String :=
  s!"invalid glob pattern '{e.pattern}': {e.reason}"

/-- A place where files are kept. Only a malformed pattern makes `glob` fail. -/
structure FileSystem where
  root : String
  isThere : String → Except IoError Bool
  read : String → Except IoError String
  metadata : String → Except IoError Metadata
  glob : String → Except GlobError (List String)

end Rulebook
