/-!
# Sets of code points

A set is a sorted array of disjoint, non-adjacent ranges, so that one set has one
representation and membership is a binary search. Every operation goes through
`CharSet.ofRanges`, which sorts and merges; the Boolean operations are union and complement,
and the rest follow from them.
-/

namespace Rulebook

/-- The code points from `lo` to `hi`, both included. -/
structure CodeRange where
  lo : Nat
  hi : Nat
  deriving Repr, DecidableEq, Inhabited

namespace CodeRange

def contains (r : CodeRange) (c : Nat) : Bool := r.lo ≤ c && c ≤ r.hi

/-- Joins ranges that overlap or touch; the list is sorted by lower end. -/
def merge : List CodeRange → List CodeRange
  | [] => []
  | r :: rest => go r rest []
where
  go (cur : CodeRange) : List CodeRange → List CodeRange → List CodeRange
    | [], done => (cur :: done).reverse
    | r :: rest, done =>
      if r.lo ≤ cur.hi + 1 then go ⟨cur.lo, max cur.hi r.hi⟩ rest done
      else go r rest (cur :: done)

/-- The gaps that sorted disjoint ranges leave between `from` and `last`. -/
def gaps (last : Nat) : Nat → List CodeRange → List CodeRange
  | start, [] => if start ≤ last then [⟨start, last⟩] else []
  | start, r :: rest =>
    if start < r.lo then ⟨start, r.lo - 1⟩ :: gaps last (r.hi + 1) rest
    else gaps last (r.hi + 1) rest

end CodeRange

/-- A set of code points as sorted, disjoint, non-adjacent ranges. -/
structure CharSet where
  ranges : Array CodeRange
  deriving Repr, DecidableEq, Inhabited

namespace CharSet

/-- The greatest code point. -/
def maxCode : Nat := 0x10FFFF

def empty : CharSet := ⟨#[]⟩

/-- The set that holds what any of the ranges holds, in any order and with any overlap. -/
def ofRanges (rs : List CodeRange) : CharSet :=
  ⟨(CodeRange.merge ((rs.filter fun r => r.lo ≤ r.hi).mergeSort fun a b => a.lo ≤ b.lo)).toArray⟩

def range (lo hi : Nat) : CharSet := ofRanges [⟨lo, hi⟩]

def single (c : Char) : CharSet := range c.toNat c.toNat

def ofChars (cs : List Char) : CharSet := ofRanges (cs.map fun c => ⟨c.toNat, c.toNat⟩)

/-- Every code point. -/
def all : CharSet := range 0 maxCode

/-- Binary search among the ranges `lo .. hi`, at most `fuel` halvings. -/
def search (rs : Array CodeRange) (c : Nat) : Nat → Nat → Nat → Bool
  | 0, _, _ => false
  | fuel + 1, lo, hi =>
    if lo < hi then
      let mid := (lo + hi) / 2
      match rs[mid]? with
      | none => false
      | some r =>
        if c < r.lo then search rs c fuel lo mid
        else if r.hi < c then search rs c fuel (mid + 1) hi
        else true
    else false

def containsCode (s : CharSet) (c : Nat) : Bool :=
  search s.ranges c (s.ranges.size + 1) 0 s.ranges.size

def contains (s : CharSet) (c : Char) : Bool := s.containsCode c.toNat

def isEmpty (s : CharSet) : Bool := s.ranges.isEmpty

def union (a b : CharSet) : CharSet := ofRanges (a.ranges.toList ++ b.ranges.toList)

/-- The code points up to `last` that are not in the set. -/
def complementUpTo (last : Nat) (s : CharSet) : CharSet :=
  ⟨(CodeRange.gaps last 0 s.ranges.toList).toArray⟩

def complement (s : CharSet) : CharSet := s.complementUpTo maxCode

def inter (a b : CharSet) : CharSet := (a.complement.union b.complement).complement

def diff (a b : CharSet) : CharSet := a.inter b.complement

def symmDiff (a b : CharSet) : CharSet := (a.diff b).union (b.diff a)

def unions (ss : List CharSet) : CharSet :=
  ofRanges (ss.flatMap fun s => s.ranges.toList)

/-- Whether every member is at most `last`. -/
def within (s : CharSet) (last : Nat) : Bool := s.ranges.all fun r => r.hi ≤ last

/-- The one member of a singleton. -/
def single? (s : CharSet) : Option Nat :=
  match s.ranges.toList with
  | [r] => if r.lo = r.hi then some r.lo else none
  | _ => none

/-! ## Tables

A table is written as hexadecimal ranges, `41-5a 61-7a aa`, in increasing order. -/

/-- The value of a lower-case hexadecimal digit. -/
def hexDigit (c : Char) : Nat :=
  if c ≤ '9' then c.toNat - '0'.toNat else c.toNat - 'a'.toNat + 10

/-- What has been read of a table: complete ranges, the lower end of an open one, the number
in progress. -/
structure TableState where
  done : List CodeRange := []
  low : Option Nat := none
  value : Option Nat := none

def TableState.close (s : TableState) : TableState :=
  match s.value with
  | none => s
  | some v => ⟨⟨s.low.getD v, v⟩ :: s.done, none, none⟩

def TableState.step (s : TableState) (c : Char) : TableState :=
  if c = ' ' || c = '\n' then s.close
  else if c = '-' then { s with low := s.value, value := none }
  else { s with value := some (s.value.getD 0 * 16 + hexDigit c) }

/-- Reads a table. -/
def ofTable (text : String) : CharSet :=
  ofRanges (text.foldl TableState.step {}).close.done.reverse

end CharSet

end Rulebook
