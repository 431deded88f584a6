import Rulebook.CharSet

/-!
# Regular expressions

An expression is what a pattern denotes once its flags have been applied: the flags decide which
set a letter stands for, which assertion `^` is and which repetitions are greedy, and leave no
trace of their own.
-/

namespace Rulebook.Regex

/-- An assertion about a position. The Boolean of a word assertion says whether letters are judged
by Unicode or by ASCII. -/
inductive Look where
  | textStart
  | textEnd
  | lineStart
  | lineEnd
  | lineStartCrlf
  | lineEndCrlf
  | wordBoundary (unicode : Bool)
  | notWordBoundary (unicode : Bool)
  | wordStart (unicode : Bool)
  | wordEnd (unicode : Bool)
  | wordStartHalf (unicode : Bool)
  | wordEndHalf (unicode : Bool)
  deriving Repr, DecidableEq

/-- A regular expression. Alternatives are in order of preference, and a group is numbered from
one by its opening parenthesis. -/
inductive Expr where
  | empty
  | set (s : CharSet)
  | look (l : Look)
  | seq (first rest : Expr)
  | alt (first rest : Expr)
  | rep (min : Nat) (max : Option Nat) (greedy : Bool) (body : Expr)
  | group (index : Nat) (name : Option String) (body : Expr)
  deriving Repr, DecidableEq, Inhabited

namespace Expr

/-- How many bytes the encoding of a code point takes. -/
def encodedLength (c : Nat) : Nat :=
  if c < 0x80 then 1 else if c < 0x800 then 2 else if c < 0x10000 then 3 else 4

/-- The length in bytes of the shortest text that the expression matches, if it matches any. -/
def minLength : Expr → Option Nat
  | empty => some 0
  | set s => s.ranges[0]?.map fun r => encodedLength r.lo
  | look _ => some 0
  | seq a b => return (← a.minLength) + (← b.minLength)
  | alt a b => return min (← a.minLength) (← b.minLength)
  | rep 0 _ _ _ => some 0
  | rep n _ _ e => e.minLength.map (n * ·)
  | group _ _ e => e.minLength

/-- Whether only the empty text can be matched. -/
def matchesOnlyEmpty : Expr → Bool
  | empty | look _ => true
  | set _ => false
  | seq a b | alt a b => a.matchesOnlyEmpty && b.matchesOnlyEmpty
  | rep _ _ _ e | group _ _ e => e.matchesOnlyEmpty

/-- One expression after the other. -/
def sequence : List Expr → Expr
  | [] => empty
  | [e] => e
  | e :: es => seq e (sequence es)

/-- The union of expressions that are all single sets. -/
def unionOfSets (es : List Expr) : Option CharSet :=
  (es.mapM fun
    | set s => some s
    | _ => none).map CharSet.unions

def alternation : List Expr → Expr
  | [] => set CharSet.empty
  | [e] => e
  | e :: es => alt e (alternation es)

/-- Alternatives in order of preference; between single sets there is nothing to prefer. -/
def alternatives (es : List Expr) : Expr :=
  match unionOfSets es with
  | some s => set s
  | none => alternation es

/-- Repetition. Repeating the empty text is the same as matching it once, no repetition at all
drops the groups inside, and repeating once is the expression itself. -/
def repeated (min : Nat) (max : Option Nat) (greedy : Bool) (e : Expr) : Expr :=
  let min' := if e.matchesOnlyEmpty then Nat.min min 1 else min
  let max' := if e.matchesOnlyEmpty then some (Nat.min (max.getD 1) 1) else max
  if max' = some 0 then empty
  else if min' = 1 ∧ max' = some 1 then e
  else rep min' max' greedy e

/-- The groups of an expression in the order in which they open. -/
def groups : Expr → List (Nat × Option String)
  | empty | set _ | look _ => []
  | seq a b | alt a b => a.groups ++ b.groups
  | rep _ _ _ e => e.groups
  | group i n e => (i, n) :: e.groups

end Expr

end Rulebook.Regex
