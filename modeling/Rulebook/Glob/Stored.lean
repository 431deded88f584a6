import Rulebook.Glob.Rests

/-!
# Patterns over stored paths

A pattern over the whole text of a path. `*` and `?` match within a name, `**` as a whole name
matches any number of names, a class matches one byte out of a set, a backslash takes the next
character literally, and braces list alternatives, which may be nested.

Matching is on bytes. A character beyond ASCII is the sequence of its bytes, also inside a class,
where the bytes count one by one.
-/

namespace Rulebook.Glob.Stored

/-- Why a pattern is refused. -/
inductive Fault where
  | unclosedClass
  | invalidRange (lo hi : Char)
  | unopenedAlternates
  | unclosedAlternates
  | danglingEscape
  deriving Repr, DecidableEq

def Fault.message : Fault → String
  | unclosedClass => "unclosed character class; missing ']'"
  | invalidRange lo hi => s!"invalid range; '{lo}' > '{hi}'"
  | unopenedAlternates =>
    "unopened alternate group; missing '\x7b' (maybe escape '\x7d' with '[\x7d]'?)"
  | unclosedAlternates =>
    "unclosed alternate group; missing '\x7d' (maybe escape '\x7b' with '[\x7b]'?)"
  | danglingEscape => "dangling '\\'"

/-- One part of a pattern. -/
inductive Part where
  /-- A character as it stands. -/
  | literal (c : Char)
  /-- `?`: a byte other than the slash. -/
  | any
  /-- `*`: bytes other than the slash. -/
  | star
  /-- `**` at the start with its slash: nothing, or everything up to a slash. -/
  | leading
  /-- A slash, or a slash, anything and a slash. -/
  | between
  /-- A slash and anything after it. -/
  | trailing
  /-- One byte in, or if negated not in, the set that ranges of characters give. -/
  | class (negated : Bool) (ranges : List (Char × Char))
  | alternates (branches : List (List Part))
  deriving Repr, Inhabited

/-! ## Matching -/

/-- The bytes of a character. -/
def bytesOf (c : Char) : List UInt8 := (String.singleton c).toUTF8.toList

/-- The byte ranges of a range of characters: the bytes of its ends in a row, where only the last
byte of the lower end and the first byte of the upper end bound a range. -/
def byteRanges (r : Char × Char) : List (UInt8 × UInt8) :=
  let lo := bytesOf r.1
  let hi := bytesOf r.2
  if r.1 = r.2 then lo.map fun b => (b, b)
  else
    lo.dropLast.map (fun b => (b, b)) ++ [(lo.getLastD 0, hi.headD 0)] ++
      hi.tail.map fun b => (b, b)

def inClass (ranges : List (Char × Char)) (b : UInt8) : Bool :=
  (ranges.flatMap byteRanges).any fun r => r.1 ≤ b && b ≤ r.2

/-- The byte of a slash. -/
def slash : UInt8 := 47

/-- A text without a given beginning, if it has it. -/
def afterBytes : List UInt8 → List UInt8 → List (List UInt8)
  | [], s => [s]
  | b :: bs, c :: cs => if b = c then afterBytes bs cs else []
  | _ :: _, [] => []

/-- What can be left when bytes other than the slash are taken off. -/
def afterStar : List UInt8 → List (List UInt8)
  | [] => [[]]
  | b :: bs => if b = slash then [b :: bs] else (b :: bs) :: afterStar bs

/-- What can be left when everything up to some slash is taken off. -/
def afterSlashes : List UInt8 → List (List UInt8)
  | [] => []
  | b :: bs => if b = slash then bs :: afterSlashes bs else afterSlashes bs

mutual

/-- Whether a part matches only nothing for want of anything in it. -/
def Part.isVoid : Part → Bool
  | .alternates branches => Part.allBranchesVoid branches
  | _ => false

def Part.allVoid : List Part → Bool
  | [] => true
  | p :: ps => p.isVoid && Part.allVoid ps

def Part.allBranchesVoid : List (List Part) → Bool
  | [] => true
  | b :: bs => Part.allVoid b && Part.allBranchesVoid bs

end

mutual

/-- What can be left of a text after a part. -/
def Part.rests : Part → List UInt8 → List (List UInt8)
  | .literal c, s => afterBytes (bytesOf c) s
  | .any, s =>
    match s with
    | [] => []
    | b :: bs => if b = slash then [] else [bs]
  | .star, s => afterStar s
  | .leading, s =>
    match s with
    | [] => [[]]
    | b :: bs => s :: (if b = slash then [bs] else []) ++ afterSlashes (b :: bs)
  | .between, s =>
    match s with
    | [] => []
    | b :: bs => if b = slash then bs :: afterSlashes bs else []
  | .trailing, s =>
    match s with
    | [] => []
    | b :: bs => if b = slash then suffixes bs else []
  | .class negated ranges, s =>
    match s with
    | [] => []
    | b :: bs => if inClass ranges b != negated then [bs] else []
  | .alternates branches, s =>
    if Part.allBranchesVoid branches then [s] else Part.branchRests branches s

/-- What can be left after one of the branches; a branch without content does not count. -/
def Part.branchRests : List (List Part) → List UInt8 → List (List UInt8)
  | [], _ => []
  | b :: bs, s => (if Part.allVoid b then [] else Part.listRests b [s]) ++ Part.branchRests bs s

/-- What can be left of one of some texts after parts in a row. -/
def Part.listRests : List Part → List (List UInt8) → List (List UInt8)
  | [], ss => ss
  | p :: ps, ss => Part.listRests ps (distinct (ss.flatMap p.rests))

end

/-- Whether a pattern matches a text as a whole. A pattern that is only `**` matches everything. -/
def isMatch (parts : List Part) (text : String) : Bool :=
  match parts with
  | [.leading] => true
  | _ => (Part.listRests parts [text.toUTF8.toList]).any List.isEmpty

/-! ## Reading -/

/-- What has been read of a class: its ranges, last first, and whether a hyphen waits for the upper
end of the last one. -/
structure ClassState where
  ranges : List (Char × Char) := []
  inRange : Bool := false

/-- Takes a character of a class. -/
def ClassState.push (st : ClassState) (c : Char) : Except Fault ClassState :=
  if st.inRange then
    match st.ranges with
    | (lo, _) :: rest =>
      if c < lo then .error (.invalidRange lo c) else .ok ⟨(lo, c) :: rest, false⟩
    | [] => .ok ⟨[(c, c)], false⟩
  else .ok ⟨(c, c) :: st.ranges, false⟩

/-- A hyphen that is neither first nor an upper end waits for one. -/
def ClassState.hyphen (st : ClassState) (first : Bool) : Except Fault ClassState :=
  if first then st.push '-'
  else if st.inRange then st.push '-'
  else .ok { st with inRange := true }

/-- The inside of a class: its ranges, the last character taken, and the rest of the pattern. -/
def classBody : ClassState → Bool → List Char → Except Fault (List (Char × Char) × List Char)
  | _, _, [] => .error .unclosedClass
  | st, first, c :: cs =>
    if c = ']' && !first then
      let ranges := if st.inRange then ('-', '-') :: st.ranges else st.ranges
      .ok (ranges.reverse, cs)
    else if c = '-' then do classBody (← st.hyphen first) false cs
    else do classBody (← st.push c) false cs

/-- A pattern in progress: the parts of the innermost branch, last first, and for each group that
is open the branches before it and the parts in front of the group. -/
structure State where
  parts : List Part := []
  groups : List (List (List Part) × List Part) := []

def State.push (st : State) (p : Part) : State := { st with parts := p :: st.parts }

/-- How a `**` is taken. `before` is the character in front of it, `st` what stands there, and the
result says whether the slash after it is taken along. -/
def State.doubleStar (st : State) (before : Option Char) (after : Option Char) : State × Bool :=
  let plain := ((st.push .star).push .star, false)
  let grouped := !st.groups.isEmpty
  match st.parts with
  | [] =>
    match after with
    | none => (st.push .leading, false)
    | some c => if c = '/' then (st.push .leading, true) else plain
  | last :: parts =>
    if before ≠ some '/' && (!grouped || (before ≠ some ',' && before ≠ some '\x7b')) then plain
    else
      let put (trailing : Bool) : State :=
        { st with
          parts := (match last with
            | .leading => .leading
            | .trailing => .trailing
            | _ => if trailing then .trailing else .between) :: parts }
      match after with
      | none => (put true, false)
      | some c =>
        if grouped && (c = ',' || c = '\x7d') then (put true, false)
        else if c = '/' then (put false, true)
        else plain

/-- Reads a pattern from a state on. `before` is the character read last, and `fuel` bounds the
characters to come. -/
def readFrom : Nat → State → Option Char → List Char → Except Fault (List Part)
  | 0, _, _, _ => .error .unclosedAlternates
  | _, st, _, [] => if st.groups.isEmpty then .ok st.parts.reverse else .error .unclosedAlternates
  | fuel + 1, st, before, c :: cs =>
    match c with
    | '?' => readFrom fuel (st.push .any) (some c) cs
    | '*' =>
      match cs with
      | '*' :: rest =>
        let (st, slashTaken) := st.doubleStar before rest.head?
        if slashTaken then readFrom fuel st (some '/') rest.tail
        else readFrom fuel st (some '*') rest
      | _ => readFrom fuel (st.push .star) (some c) cs
    | '[' => do
      let (negated, body) := match cs with
        | '!' :: rest => (true, rest)
        | '^' :: rest => (true, rest)
        | _ => (false, cs)
      let (ranges, rest) ← classBody {} true body
      readFrom fuel (st.push (.class negated ranges)) (some ']') rest
    | '\x7b' => readFrom fuel ⟨[], ([], st.parts) :: st.groups⟩ (some c) cs
    | '\x7d' =>
      match st.groups with
      | [] => .error .unopenedAlternates
      | (branches, outer) :: rest =>
        let group := Part.alternates (st.parts.reverse :: branches).reverse
        readFrom fuel ⟨group :: outer, rest⟩ (some c) cs
    | ',' =>
      match st.groups with
      | [] => readFrom fuel (st.push (.literal c)) (some c) cs
      | (branches, outer) :: rest =>
        readFrom fuel ⟨[], (st.parts.reverse :: branches, outer) :: rest⟩ (some c) cs
    | '\\' =>
      match cs with
      | [] => .error .danglingEscape
      | e :: rest => readFrom fuel (st.push (.literal e)) (some e) rest
    | c => readFrom fuel (st.push (.literal c)) (some c) cs

/-- The parts of a pattern. -/
def parse (pattern : String) : Except Fault (List Part) :=
  let cs := pattern.toList
  readFrom (cs.length + 1) {} none cs

/-- A text as a pattern for itself: what has a meaning stands in a class of its own. -/
def escape (text : String) : String :=
  String.ofList (text.toList.flatMap fun c =>
    if "?*[]\x7b\x7d".toList.contains c then ['[', c, ']'] else [c])

end Rulebook.Glob.Stored
