import Rulebook.Sorted.Search

/-!
# Lines and columns

An offset into a text lies on the line that starts last at or before it. Lines and columns count
from one, columns count bytes, and an offset past the end of the text lies on the last line.

The numbers have no bound here. Which of them fit 32 bits, for a text and an offset that do, is part
of what is proved about positions.
-/

namespace Rulebook

/-- A line and a column, both counted from one. -/
structure Position where
  line : Nat
  column : Nat
  deriving Repr, DecidableEq, Inhabited

def Position.text (p : Position) : String := s!"{p.line}:{p.column}"

/-- The starts of the lines of a text, in increasing order: its own start, and what comes after each
line feed. -/
def lineStarts (text : String) : List Nat :=
  0 :: (text.toUTF8.toList.zipIdx.filter fun b => b.1 = '\n'.toUInt8).map fun b => b.2 + 1

/-- The starts of the lines of a file, to turn offsets into positions. -/
structure LineIndex where
  path : String
  starts : Array Nat
  deriving Repr, DecidableEq, Inhabited

namespace LineIndex

def ofSource (path source : String) : LineIndex := ⟨path, (lineStarts source).toArray⟩

/-- The line on which an offset lies, counted from zero. If no line starts at the offset, it is the
one before the place where such a start would belong. -/
def lineAt (ix : LineIndex) (offset : Nat) : Nat :=
  match binarySearch ix.starts offset with
  | .found line => line
  | .missing next => next - 1

/-- The position of an offset. -/
def position (ix : LineIndex) (offset : Nat) : Position :=
  let line := ix.lineAt offset
  ⟨line + 1, offset - ix.starts.getD line 0 + 1⟩

end LineIndex

/-- The line of a text on which an offset lies. -/
def lineOf (text : String) (offset : Nat) : Nat :=
  (text.toUTF8.toList.take offset).count '\n'.toUInt8 + 1

end Rulebook
