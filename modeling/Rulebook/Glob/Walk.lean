import Rulebook.Glob.Rests

/-!
# Patterns that are walked name by name

A pattern for one name of a path. `*` and `?` match within the name, a class matches one character
out of a set, and `**` alone stands for any number of directories. There are no alternatives and no
escapes: braces and backslashes are ordinary characters.
-/

namespace Rulebook.Glob.Walk

/-- Why a pattern is refused. -/
inductive Fault where
  | tooManyStars
  | partialDoubleStar
  | invalidClass
  deriving Repr, DecidableEq

def Fault.message : Fault → String
  | tooManyStars => "wildcards are either regular \x60*\x60 or recursive \x60**\x60"
  | partialDoubleStar => "recursive wildcards must form a single path component"
  | invalidClass => "invalid range pattern"

/-- One part of a pattern. -/
inductive Part where
  | literal (c : Char)
  | any
  | star
  | doubleStar
  | class (negated : Bool) (ranges : List (Char × Char))
  deriving Repr, DecidableEq

/-- The ranges of a class; a hyphen with a character on either side makes a range of them. -/
def classRanges : List Char → List (Char × Char)
  | [] => []
  | lo :: '-' :: hi :: rest => (lo, hi) :: classRanges rest
  | c :: rest => (c, c) :: classRanges rest

/-- The inside of a class and what follows it. Its first character is never the closing bracket. -/
def splitClass : List Char → Option (Bool × List Char × List Char)
  | '!' :: c :: rest => go true c rest
  | '!' :: [] => none
  | c :: rest => go false c rest
  | [] => none
where
  go (negated : Bool) (c : Char) (rest : List Char) : Option (Bool × List Char × List Char) :=
    match rest.dropWhile (· ≠ ']') with
    | _ :: after => some (negated, c :: rest.takeWhile (· ≠ ']'), after)
    | [] => none

/-- Reads a pattern. `before` is the character in front of the rest, and `fuel` bounds the
characters to come. A `**` has to stand between slashes or the ends of the pattern. -/
def readFrom : Nat → Option Char → List Char → Except Fault (List Part)
  | 0, _, _ => .ok []
  | _, _, [] => .ok []
  | fuel + 1, before, c :: cs =>
    match c with
    | '?' => return .any :: (← readFrom fuel (some c) cs)
    | '*' =>
      match cs with
      | '*' :: '*' :: _ => .error .tooManyStars
      | '*' :: rest =>
        if before ≠ none && before ≠ some '/' then .error .partialDoubleStar
        else match rest with
          | [] => .ok [.doubleStar]
          | '/' :: rest => return .doubleStar :: (← readFrom fuel (some '/') rest)
          | _ => .error .partialDoubleStar
      | _ => return .star :: (← readFrom fuel (some c) cs)
    | '[' =>
      match splitClass cs with
      | some (negated, inside, rest) =>
        return .class negated (classRanges inside) :: (← readFrom fuel (some ']') rest)
      | none => .error .invalidClass
    | c => return .literal c :: (← readFrom fuel (some c) cs)

def parse (pattern : String) : Except Fault (List Part) :=
  let cs := pattern.toList
  readFrom (cs.length + 1) none cs

/-- A text as a pattern for itself. -/
def escape (text : String) : String :=
  String.ofList (text.toList.flatMap fun c =>
    if "?*[]".toList.contains c then ['[', c, ']'] else [c])

/-- The name that a pattern without wildcards stands for. -/
def literalName? (parts : List Part) : Option String :=
  (parts.mapM fun
    | Part.literal c => some c
    | _ => none).map String.ofList

/-- What can be left of a name after a part. -/
def Part.rests : Part → List Char → List (List Char)
  | _, [] => []
  | .literal c, d :: ds => if c = d then [ds] else []
  | .any, _ :: ds => [ds]
  | .class negated ranges, d :: ds =>
    if (ranges.any fun r => r.1 ≤ d && d ≤ r.2) != negated then [ds] else []
  | .star, _ | .doubleStar, _ => []

/-- What can be left of one of some names after parts in a row. -/
def listRests : List Part → List (List Char) → List (List Char)
  | [], ss => ss
  | p :: ps, ss =>
    let next := match p with
      | .star | .doubleStar => ss.flatMap suffixes
      | p => ss.flatMap p.rests
    listRests ps (distinct next)

/-- Whether a pattern matches a name. -/
def isMatch (parts : List Part) (name : String) : Bool :=
  (listRests parts [name.toList]).any List.isEmpty

end Rulebook.Glob.Walk
