import Rulebook.Regex.Class
import Rulebook.Regex.Program
import Std.Data.HashSet

/-!
# Searching

A search explores the pairs of an instruction and a position depth first, in order of preference,
and never visits a pair twice: a pair that was given up once leads to no match. The first way to
accept is therefore the preferred match at the leftmost position, and the number of steps is
bounded by the size of the program times the length of the text.
-/

namespace Rulebook.Regex

def isWordChar (unicode : Bool) (c : Char) : Bool :=
  if unicode then Class.words.contains c else Class.asciiWords.contains c

/-- Whether an assertion holds at a position. -/
def Look.holds (l : Look) (text : Array Char) (i : Nat) : Bool :=
  let before := if i = 0 then none else text[i - 1]?
  let after := text[i]?
  let word (unicode : Bool) (c : Option Char) := c.any (isWordChar unicode)
  match l with
  | .textStart => i = 0
  | .textEnd => i = text.size
  | .lineStart => before.isNone || before = some '\n'
  | .lineEnd => after.isNone || after = some '\n'
  | .lineStartCrlf =>
    before.isNone || before = some '\n' || (before = some '\r' && after ≠ some '\n')
  | .lineEndCrlf =>
    after.isNone || after = some '\r' || (after = some '\n' && before ≠ some '\r')
  | .wordBoundary u => word u before != word u after
  | .notWordBoundary u => word u before == word u after
  | .wordStart u => !word u before && word u after
  | .wordEnd u => word u before && !word u after
  | .wordStartHalf u => !word u before
  | .wordEndHalf u => !word u after

/-- A way through the program that is still open, with the positions it has saved. -/
structure Thread where
  inst : Nat
  pos : Nat
  slots : Array (Option Nat)

/-- The pairs that were visited, as numbers. -/
abbrev Visited := Std.HashSet Nat

/-- Follows the threads in order until one accepts. Each step drops a thread or visits a new
pair. -/
def explore (code : Array Inst) (text : Array Char) :
    Nat → List Thread → Visited → Option (Array (Option Nat)) × Visited
  | 0, _, visited => (none, visited)
  | _, [], visited => (none, visited)
  | fuel + 1, t :: rest, visited =>
    let key := t.inst * (text.size + 1) + t.pos
    if visited.contains key then explore code text fuel rest visited
    else
      let visited := visited.insert key
      match code[t.inst]? with
      | none | some .fail => explore code text fuel rest visited
      | some .accept => (some t.slots, visited)
      | some (.set s next) =>
        match text[t.pos]? with
        | some c =>
          if s.contains c then
            explore code text fuel ({ t with inst := next, pos := t.pos + 1 } :: rest) visited
          else explore code text fuel rest visited
        | none => explore code text fuel rest visited
      | some (.look l next) =>
        if l.holds text t.pos then explore code text fuel ({ t with inst := next } :: rest) visited
        else explore code text fuel rest visited
      | some (.split first second) =>
        explore code text fuel ({ t with inst := first } :: { t with inst := second } :: rest)
          visited
      | some (.save slot next) =>
        let slots := t.slots.setIfInBounds slot (some t.pos)
        explore code text fuel ({ t with inst := next, slots } :: rest) visited

/-- Searches from a position on, `remaining` further positions included. -/
def searchFrom (p : Program) (text : Array Char) (remaining pos : Nat) (visited : Visited) :
    Option (Array (Option Nat)) :=
  let fuel := 2 * p.code.size * (text.size + 1) + 2
  let start : Thread := ⟨p.start, pos, Array.replicate p.slots none⟩
  match explore p.code text fuel [start] visited with
  | (some slots, _) => some slots
  | (none, visited) =>
    match remaining with
    | 0 => none
    | remaining + 1 => searchFrom p text remaining (pos + 1) visited

/-- The saved positions of the preferred match at the leftmost position. -/
def search (p : Program) (text : Array Char) : Option (Array (Option Nat)) :=
  searchFrom p text text.size 0 ∅

end Rulebook.Regex
