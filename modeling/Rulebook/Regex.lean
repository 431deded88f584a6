import Rulebook.Regex.Parser
import Rulebook.Regex.Search
import Rulebook.Regex.Size

/-!
# Regular expression patterns

A pattern is compiled once and then searched for in texts. A search is not anchored; among the
matches it finds the leftmost, and of those the one that the order of alternatives and the greed of
repetitions prefer.
-/

namespace Rulebook

/-- Why a pattern is not compiled. -/
inductive Regex.Error where
  /-- It breaks a rule of the notation. -/
  | malformed
  /-- Its automaton would be too large. -/
  | tooLarge
  deriving Repr, DecidableEq

/-- The text of either error. -/
def Regex.Error.message : Regex.Error → String
  | malformed | tooLarge => "regex error"

/-- A compiled pattern. -/
structure Regex where
  pattern : String
  expr : Regex.Expr
  program : Regex.Program
  deriving DecidableEq

namespace Regex

def compile (pattern : String) : Except Error Regex :=
  match parse? pattern with
  | none => .error .malformed
  | some expr => if expr.fits then .ok ⟨pattern, expr, Program.compile expr⟩ else .error .tooLarge

/-- The named groups with their numbers, in the order in which they open. -/
def namedGroups (r : Regex) : List (Nat × String) :=
  r.expr.groups.filterMap fun g => g.2.map fun name => (g.1, name)

/-- The names of the groups that have one. -/
def groupNames (r : Regex) : List String := r.namedGroups.map Prod.snd

def isMatch (r : Regex) (text : String) : Bool :=
  (search r.program text.toList.toArray).isSome

/-- The text between two saved positions. -/
def slice (text : Array Char) (slots : Array (Option Nat)) (group : Nat) : Option String := do
  let start ← (slots[2 * group]?).join
  let stop ← (slots[2 * group + 1]?).join
  return String.ofList (text.extract start stop).toList

/-- The named groups that took part in the first match, with what they captured. -/
def captures (r : Regex) (text : String) : Option (List (String × String)) :=
  let chars := text.toList.toArray
  (search r.program chars).map fun slots =>
    r.namedGroups.filterMap fun g => (slice chars slots g.1).map fun t => (g.2, t)

end Regex

end Rulebook
