import Rulebook.Regex.Expr
import Std.Data.HashMap

/-!
# The size of a compiled expression

A pattern is refused when the automaton over bytes that it compiles to would take more than
`sizeLimit` bytes. The automaton is not built: its size is a sum over the expression. A state
takes 32 bytes, a branch of a choice four more and a transition on a range of bytes eight more. A
set beyond ASCII costs an automaton for the encodings of its members; matching forwards shares
equal tails of encodings with equal continuations, and matching backwards shares equal beginnings.
-/

namespace Rulebook.Regex

/-- The most bytes that a compiled pattern may take. -/
def sizeLimit : Nat := 10000000

/-- The bytes that one state takes. -/
def stateSize : Nat := 32

/-- The encodings of a range of code points, as sequences of byte ranges. -/
abbrev ByteRanges := List (Nat × Nat)

/-- The encoding of a code point in UTF-8. -/
def encodeCode (c : Nat) : List Nat :=
  if c < 0x80 then [c]
  else if c < 0x800 then [0xC0 + c / 64, 0x80 + c % 64]
  else if c < 0x10000 then [0xE0 + c / 4096, 0x80 + c / 64 % 64, 0x80 + c % 64]
  else [0xF0 + c / 262144, 0x80 + c / 4096 % 64, 0x80 + c / 64 % 64, 0x80 + c % 64]

/-- Where a range has to be cut so that the encodings of each part vary independently byte by
byte: at a change of length, and where a tail of continuation bytes is not complete. -/
def cutPoint (lo hi : Nat) : Option Nat :=
  let lengths := [0x7F, 0x7FF, 0xFFFF].find? fun last => lo ≤ last && last < hi
  match lengths with
  | some last => some last
  | none =>
    if hi < 0x80 then none
    else [64, 4096, 262144].findSome? fun m =>
      if lo / m = hi / m then none
      else if lo % m ≠ 0 then some (lo / m * m + (m - 1))
      else if hi % m ≠ m - 1 then some (hi / m * m - 1)
      else none

/-- The byte ranges of a range of code points; `fuel` bounds the number of cuts in a row. -/
def byteRanges : Nat → Nat → Nat → List ByteRanges
  | 0, _, _ => []
  | fuel + 1, lo, hi =>
    if hi < lo then []
    else match cutPoint lo hi with
      | some last => byteRanges fuel lo last ++ byteRanges fuel (last + 1) hi
      | none => [(encodeCode lo).zip (encodeCode hi)]

/-- The byte ranges of a set, surrogates left out. -/
def encodings (s : CharSet) : List ByteRanges :=
  (s.diff (CharSet.range 0xD800 0xDFFF)).ranges.toList.flatMap fun r => byteRanges 32 r.lo r.hi

/-- The states met so far: each is a list of byte ranges with the number of the state they lead
to. -/
abbrev StateTable := Std.HashMap (List (Nat × Nat × Nat)) Nat

/-- Groups neighbours that begin with the same range. -/
def groupHeads : List ByteRanges → List ((Nat × Nat) × List ByteRanges)
  | [] => []
  | [] :: rest => groupHeads rest
  | (r :: tail) :: rest =>
    match groupHeads rest with
    | (r', tails) :: more =>
      if r = r' then (r, tail :: tails) :: more else (r, [tail]) :: (r', tails) :: more
    | [] => [(r, [tail])]

/-- Adds the state that reads the given tails; equal states are one. State zero ends the set. -/
def addState : Nat → List ByteRanges → StateTable → Nat × StateTable
  | 0, _, table => (0, table)
  | depth + 1, seqs, table =>
    match groupHeads seqs with
    | [] => (0, table)
    | heads =>
      let (transitions, table) := heads.foldl (fun (acc : List (Nat × Nat × Nat) × StateTable) h =>
        let (target, table) := addState depth h.2 acc.2
        ((h.1.1, h.1.2, target) :: acc.1, table)) ([], table)
      match table[transitions]? with
      | some state => (state, table)
      | none =>
        let state := table.size + 1
        (state, table.insert transitions state)

/-- The size of a set read forwards. -/
def forwardSetSize (s : CharSet) : Nat :=
  let (_, table) := addState 5 (encodings s) ∅
  table.fold (fun n transitions _ => n + stateSize + 8 * transitions.length) stateSize

/-- The size of a set read backwards: one state for each byte range with its continuation. -/
def backwardSetSize (s : CharSet) : Nat :=
  let seqs := encodings s
  let step (table : StateTable) (seq : ByteRanges) : StateTable :=
    (seq.foldl (fun (acc : Nat × StateTable) r =>
      let key := [(acc.1, r.1, r.2)]
      match acc.2[key]? with
      | some state => (state, acc.2)
      | none =>
        let state := acc.2.size + 1
        (state, acc.2.insert key state)) (0, table)).2
  2 * stateSize + stateSize * (seqs.foldl step ∅).size + 4 * seqs.length

/-- The size of a set: one state for each byte of a single character, one state with all ranges
for an ASCII set, an automaton otherwise. -/
def setSize (backwards : Bool) (s : CharSet) : Nat :=
  match s.single? with
  | some c => stateSize * Expr.encodedLength c
  | none =>
    if s.isEmpty then stateSize
    else if s.within 0x7F then 2 * stateSize + 8 * s.ranges.size
    else if backwards then backwardSetSize s
    else forwardSetSize s

/-- The size of an expression. `inChoice` holds for the tail of a list of alternatives, whose
states for branching and joining are already counted. -/
def Expr.size (backwards : Bool) : (inChoice : Bool) → Expr → Nat
  | inChoice, .alt a b =>
    (if inChoice then 0 else 2 * stateSize) + (a.size backwards false + 4) + b.size backwards true
  | inChoice, e =>
    (if inChoice then 4 else 0) +
    match e with
    | .alt _ _ => 0
    | .empty => stateSize
    | .set s => setSize backwards s
    | .look _ => stateSize
    | .seq a b => a.size backwards false + b.size backwards false
    | .group _ _ b => (if backwards then 0 else 2 * stateSize) + b.size backwards false
    | .rep min max _ b =>
      let one := b.size backwards false
      let choice := stateSize + 8
      match max with
      | some max =>
        if min = 0 ∧ max = 1 then choice + stateSize + one
        else
          (if min = 0 then stateSize else min * one) +
            (if min = max then 0 else stateSize + (max - min) * (choice + one))
      | none =>
        if min = 0 then
          if b.minLength.any (0 < ·) then choice + one else 2 * choice + stateSize + one
        else min * one + choice

/-- Whether an expression compiles within the limit in both directions. The frame of a pattern is
its match, the group around it and the search for its start. -/
def Expr.fits (e : Expr) : Bool :=
  let frame := 8 * stateSize
  frame + e.size false false ≤ sizeLimit && frame + e.size true false ≤ sizeLimit

end Rulebook.Regex
