import Rulebook.Text.Split

/-!
# Paths

A path is a text whose names are separated by slashes. Its components leave out what has no effect
on what the path denotes: repeated slashes, and `.` anywhere but at the start of a relative path.
Paths are ordered by their components, so that what lies in a directory comes right after it.
-/

namespace Rulebook

/-- One step of a path. The order of the constructors is the order of paths. -/
inductive Component where
  | root
  | here
  | up
  | name (s : String)
  deriving Repr, DecidableEq, Inhabited

namespace Component

def text : Component → String
  | root => "/"
  | here => "."
  | up => ".."
  | name s => s

/-- The place of a kind of step in the order of paths. -/
def rank : Component → Nat
  | root => 0
  | here => 1
  | up => 2
  | name _ => 3

def le (a b : Component) : Bool :=
  match a, b with
  | name s, name t => s ≤ t
  | a, b => a.rank ≤ b.rank

end Component

namespace Path

/-- The texts between the slashes of a path. -/
def segments (path : String) : List String := (Text.split '/' path.toList).map String.ofList

def isAbsolute (path : String) : Bool := path.toList.head? = some '/'

/-- The step that a text between slashes stands for, if any. -/
def step? (s : String) : Option Component :=
  if s = "" || s = "." then none
  else if s = ".." then some .up
  else some (.name s)

/-- The steps of a path. -/
def components (path : String) : List Component :=
  let steps := (segments path).filterMap step?
  if isAbsolute path then .root :: steps
  else if (segments path).head? = some "." then .here :: steps
  else steps

/-- A path below a directory, unless the path is absolute. -/
def join (dir path : String) : String :=
  if isAbsolute path then path
  else if dir = "" || dir.toList.getLast? = some '/' then dir ++ path
  else dir ++ "/" ++ path

/-- The order of paths by their components. -/
def le : List Component → List Component → Bool
  | [], _ => true
  | _ :: _, [] => false
  | a :: as, b :: bs => if a = b then le as bs else a.le b

/-- Paths in their order. -/
def sort (paths : List String) : List String :=
  let keyed := paths.map fun p => (components p, p)
  (keyed.mergeSort fun a b => le a.1 b.1).map Prod.snd

/-- The names that a path leads to from a directory given by its names. `..` leads no higher than
the top. -/
def resolve (dir : List String) (path : String) : List String :=
  (components path).foldl (fun names c =>
    match c with
    | .root => []
    | .here => names
    | .up => names.dropLast
    | .name s => names ++ [s]) dir

/-- The absolute path with the given names. -/
def ofNames (names : List String) : String := "/" ++ "/".intercalate names

end Path

end Rulebook
