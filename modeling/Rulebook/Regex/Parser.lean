import Rulebook.Regex.Class
import Rulebook.Unicode.CaseFolding
import Rulebook.Regex.Expr
import Rulebook.Text.Blank

/-!
# Reading patterns

A pattern is read from left to right with the flags in force as part of the state: `(?i)` changes
them up to the end of the group, `(?i:…)` for one group. Each construct is returned with its
nesting depth, and a pattern nested more than `maxNesting` deep is refused.

All recursion is on a fuel argument. Every call either consumes a character or is made a bounded
number of times per character, so the fuel that `parse` supplies does not run out.
-/

namespace Rulebook.Regex

/-- The deepest nesting of groups, repetitions, classes, sequences and alternatives. -/
def maxNesting : Nat := 250

/-- The greatest count that a repetition may give. -/
def maxCount : Nat := 4294967295

/-- The switches that a pattern can turn. -/
structure Flags where
  caseless : Bool := false
  multiLine : Bool := false
  dotAll : Bool := false
  swapGreed : Bool := false
  unicode : Bool := true
  crlf : Bool := false
  extended : Bool := false
  deriving Repr, DecidableEq

/-- One switch. -/
inductive Flag where
  | caseless | multiLine | dotAll | swapGreed | unicode | crlf | extended
  deriving Repr, DecidableEq

def Flag.ofChar? : Char → Option Flag
  | 'i' => some .caseless
  | 'm' => some .multiLine
  | 's' => some .dotAll
  | 'U' => some .swapGreed
  | 'u' => some .unicode
  | 'R' => some .crlf
  | 'x' => some .extended
  | _ => none

def Flags.set (f : Flags) (on : Bool) : Flag → Flags
  | .caseless => { f with caseless := on }
  | .multiLine => { f with multiLine := on }
  | .dotAll => { f with dotAll := on }
  | .swapGreed => { f with swapGreed := on }
  | .unicode => { f with unicode := on }
  | .crlf => { f with crlf := on }
  | .extended => { f with extended := on }

/-- What the reader carries along: the rest of the pattern, the flags, the number of groups
opened and the names given so far. -/
structure ParseState where
  rest : List Char
  flags : Flags := {}
  groups : Nat := 0
  names : List String := []

/-- A reading step; a pattern that breaks a rule has no reading. -/
abbrev Reader := StateT ParseState Option

/-- An expression with its nesting depth; a bare switch of flags cannot be repeated. -/
structure Item where
  expr : Expr
  depth : Nat := 0
  repeatable : Bool := true

/-- What an escape can stand for. -/
inductive Primitive where
  | literal (c : Char)
  | byte (n : Nat)
  | look (l : Look)
  | set (s : CharSet)

namespace Reader

def fail {α : Type} : Reader α := fun _ => none

def peek : Reader (Option Char) := return (← get).rest.head?

def second : Reader (Option Char) := return (← get).rest.tail.head?

def flags : Reader Flags := return (← get).flags

def drop (n : Nat) : Reader Unit := modify fun s => { s with rest := s.rest.drop n }

def guard (b : Bool) : Reader Unit := if b then pure () else fail

def next : Reader Char := do
  match (← get).rest with
  | [] => fail
  | c :: cs => modify fun s => { s with rest := cs }; return c

/-- Takes a fixed text if it comes next. -/
def eat (text : String) : Reader Bool := do
  let s ← get
  if text.toList.isPrefixOf s.rest then
    drop text.length
    return true
  else return false

/-- The text after white space and comments. A comment runs from `#` to the end of its line. -/
def skipExtended : Bool → List Char → List Char
  | _, [] => []
  | true, c :: cs => skipExtended (c ≠ '\n') cs
  | false, c :: cs =>
    if Text.isBlank c then skipExtended false cs
    else if c = '#' then skipExtended true cs
    else c :: cs

/-- Under the extended flag, skips white space and comments. -/
def skipSpace : Reader Unit :=
  modify fun s => if s.flags.extended then { s with rest := skipExtended false s.rest } else s

def nextSkip : Reader Char := do
  let c ← next
  skipSpace
  return c

def isHex (c : Char) : Bool := c.isDigit || ('a' ≤ c && c ≤ 'f') || ('A' ≤ c && c ≤ 'F')

def hexValue (cs : List Char) : Nat := cs.foldl (fun n c => n * 16 + CharSet.hexDigit c.toLower) 0

/-- The character with a number, if the number is a scalar value. -/
def scalar (n : Nat) : Reader Char :=
  if n < 0xD800 || (0xDFFF < n && n ≤ CharSet.maxCode) then pure (Char.ofNat n) else fail

/-- Exactly `n` hexadecimal digits. -/
def hexDigits : Nat → Reader (List Char)
  | 0 => pure []
  | n + 1 => do
    let c ← nextSkip
    guard (isHex c)
    return c :: (← hexDigits n)

/-- The characters up to a closing brace, which is consumed. -/
def untilBrace : Nat → Reader (List Char)
  | 0 => fail
  | fuel + 1 => do
    let c ← next
    if c = '\x7d' then return []
    skipSpace
    return c :: (← untilBrace fuel)

/-- The code point that `\x`, `\u` or `\U` gives, by `width` digits or in braces. -/
def hexEscape (width : Nat) : Reader Primitive := do
  skipSpace
  if (← peek) = some '\x7b' then
    drop 1
    skipSpace
    let digits ← untilBrace ((← get).rest.length + 1)
    skipSpace
    guard (!digits.isEmpty && digits.all isHex)
    return .literal (← scalar (hexValue digits))
  else
    let n := hexValue (← hexDigits width)
    if !(← flags).unicode && width = 2 then
      return if n < 0x80 then .literal (Char.ofNat n) else .byte n
    else return .literal (← scalar n)

/-- Closes a set under the case flag and complements it if asked. Without Unicode a set is one of
bytes, and a byte beyond ASCII is no text. -/
def finishSet (negated : Bool) (s : CharSet) : Reader CharSet := do
  let f ← flags
  if f.unicode then
    let s := if f.caseless then Unicode.foldCase s else s
    return if negated then s.complement else s
  else
    let s := if f.caseless then Class.foldAscii s else s
    let s := if negated then s.complementUpTo 0xFF else s
    guard (s.within 0x7F)
    return s

/-- Splits at the first occurrence of a separator. -/
def splitAtFirst (sep : List Char) : List Char → Option (List Char × List Char)
  | [] => none
  | c :: cs =>
    if sep.isPrefixOf (c :: cs) then some ([], (c :: cs).drop sep.length)
    else (splitAtFirst sep cs).map fun p => (c :: p.1, p.2)

/-- The class after `\p` or `\P`. -/
def propertyEscape (negated : Bool) : Reader CharSet := do
  skipSpace
  let c ← next
  let (query, negated) ←
    if c = '\x7b' then do
      skipSpace
      let name ← untilBrace ((← get).rest.length + 1)
      let valued (p : List Char × List Char) :=
        Unicode.valued? (String.ofList p.1) (String.ofList p.2)
      match splitAtFirst ['!', '='] name with
      | some p => pure (valued p, !negated)
      | none => match splitAtFirst [':'] name with
        | some p => pure (valued p, negated)
        | none => match splitAtFirst ['='] name with
          | some p => pure (valued p, negated)
          | none => pure (Unicode.named? (String.ofList name), negated)
    else do
      guard (c ≠ '\\')
      skipSpace
      pure (Unicode.named? (String.singleton c), negated)
  guard (← flags).unicode
  match query with
  | some s => finishSet negated s
  | none => fail

/-- One of the shorthands `\d`, `\s`, `\w` and their complements. -/
def shorthand (unicode ascii : CharSet) (negated : Bool) : Reader CharSet := do
  if (← flags).unicode then return if negated then unicode.complement else unicode
  else
    guard (!negated)
    return ascii

/-- A boundary with a name in braces, as in `\b\x7bstart\x7d`. Braces that hold no name are left
to be read as a repetition. -/
def namedBoundary (unicode : Bool) : Reader (Option Look) := do
  let before ← get
  drop 1
  skipSpace
  let isName (c : Char) := c.isAlpha || c = '-'
  match ← peek with
  | none => fail
  | some c =>
    if !isName c then
      set before
      return none
    else
      let name ← untilBrace ((← get).rest.length + 1)
      match String.ofList name with
      | "start" => return some (.wordStart unicode)
      | "end" => return some (.wordEnd unicode)
      | "start-half" => return some (.wordStartHalf unicode)
      | "end-half" => return some (.wordEndHalf unicode)
      | _ => fail

def isMeta (c : Char) : Bool := "\\.+*?()|[]\x7b\x7d^$#&-~".toList.contains c

/-- What follows a backslash. Punctuation may always be escaped, letters and digits only where
they have a meaning. -/
def escape : Reader Primitive := do
  let c ← next
  let unicode := (← flags).unicode
  match c with
  | 'x' => hexEscape 2
  | 'u' => hexEscape 4
  | 'U' => hexEscape 8
  | 'p' => return .set (← propertyEscape false)
  | 'P' => return .set (← propertyEscape true)
  | 'd' => return .set (← shorthand Class.digits Class.asciiDigits false)
  | 'D' => return .set (← shorthand Class.digits Class.asciiDigits true)
  | 's' => return .set (← shorthand Class.spaces Class.asciiSpaces false)
  | 'S' => return .set (← shorthand Class.spaces Class.asciiSpaces true)
  | 'w' => return .set (← shorthand Class.words Class.asciiWords false)
  | 'W' => return .set (← shorthand Class.words Class.asciiWords true)
  | 'a' => return .literal '\x07'
  | 'f' => return .literal '\x0c'
  | 't' => return .literal '\t'
  | 'n' => return .literal '\n'
  | 'r' => return .literal '\r'
  | 'v' => return .literal '\x0b'
  | 'A' => return .look .textStart
  | 'z' => return .look .textEnd
  | 'B' => return .look (.notWordBoundary unicode)
  | '<' => return .look (.wordStart unicode)
  | '>' => return .look (.wordEnd unicode)
  | 'b' =>
    if (← peek) = some '\x7b' then
      return .look ((← namedBoundary unicode).getD (.wordBoundary unicode))
    else return .look (.wordBoundary unicode)
  | c =>
    guard (isMeta c || (c.toNat < 128 && !c.isAlphanum))
    return .literal c

/-- A literal character outside brackets. -/
def literal (c : Char) : Reader Expr := do
  let f ← flags
  let s := CharSet.single c
  if f.caseless then
    return .set (if f.unicode then Unicode.foldCase s else Class.foldAscii s)
  else return .set s

def Primitive.toExpr : Primitive → Reader Expr
  | .literal c => literal c
  | .byte _ => fail
  | .look l => pure (.look l)
  | .set s => pure (.set s)

/-- The set that `.` stands for. -/
def dot : Reader Expr := do
  let f ← flags
  guard f.unicode
  if f.dotAll then return .set CharSet.all
  else if f.crlf then return .set (CharSet.ofChars ['\r', '\n']).complement
  else return .set (CharSet.single '\n').complement

def lineStart : Reader Expr := do
  let f ← flags
  return .look (if !f.multiLine then .textStart else if f.crlf then .lineStartCrlf else .lineStart)

def lineEnd : Reader Expr := do
  let f ← flags
  return .look (if !f.multiLine then .textEnd else if f.crlf then .lineEndCrlf else .lineEnd)

/-! ## Bracketed classes -/

/-- The operators between the parts of a bracketed class. -/
inductive SetOp where
  | inter | diff | symmDiff

def SetOp.apply : SetOp → CharSet → CharSet → CharSet
  | .inter => CharSet.inter
  | .diff => CharSet.diff
  | .symmDiff => CharSet.symmDiff

/-- A bracketed class in progress: what is left of the last operator, and the union since then
with its number of items and the depth of the deepest. -/
structure SetState where
  left : Option (CharSet × Nat) := none
  op : SetOp := .inter
  items : List CharSet := []
  count : Nat := 0
  depth : Nat := 0

def SetState.push (st : SetState) (s : CharSet) (depth : Nat) : SetState :=
  { st with items := s :: st.items, count := st.count + 1, depth := max st.depth depth }

/-- The union since the last operator, with its depth. -/
def SetState.operand (st : SetState) : CharSet × Nat :=
  (CharSet.unions st.items, if st.count ≤ 1 then st.depth else st.depth + 1)

/-- Both operands of an operator are closed under the case flag first. -/
def SetState.close (st : SetState) : Reader (CharSet × Nat) := do
  let (right, rightDepth) := st.operand
  match st.left with
  | none => return (right, rightDepth)
  | some (left, leftDepth) =>
    let f ← flags
    let fold (s : CharSet) :=
      if !f.caseless then s else if f.unicode then Unicode.foldCase s else Class.foldAscii s
    return (st.op.apply (fold left) (fold right), max leftDepth rightDepth + 1)

/-- A character that stands for itself inside brackets; without Unicode only ASCII can. -/
def classLiteral (c : Char) : Reader CharSet := do
  guard ((← flags).unicode || c.toNat < 128)
  return CharSet.single c

def classItem : Reader Primitive := do
  let c ← next
  if c = '\\' then escape else return .literal c

def Primitive.toSet : Primitive → Reader CharSet
  | .literal c => classLiteral c
  | .byte n => pure (CharSet.range n n)
  | .look _ => fail
  | .set s => pure s

def Primitive.toCode : Primitive → Reader Nat
  | .literal c => do
    guard ((← flags).unicode || c.toNat < 128)
    return c.toNat
  | .byte n => pure n
  | _ => fail

/-- The character that stands after the current one once white space is skipped. -/
def peekPastSpace : Reader (Option Char) := do
  let s ← get
  if s.flags.extended then
    match s.rest.tail.dropWhile Text.isBlank with
    | '#' :: cs => return (cs.dropWhile Text.isBlank).head?
    | cs => return cs.head?
  else return s.rest.tail.head?

/-- A single character, a range or a class inside brackets. -/
def classRange : Reader CharSet := do
  let first ← classItem
  skipSpace
  match ← peek with
  | none => fail
  | some '-' =>
    let after ← peekPastSpace
    if after = some ']' || after = some '-' then Primitive.toSet first
    else
      drop 1
      skipSpace
      let last ← classItem
      let lo ← Primitive.toCode first
      let hi ← Primitive.toCode last
      guard (lo ≤ hi)
      return CharSet.range lo hi
  | some _ => Primitive.toSet first

/-- A named ASCII class such as `[:alpha:]`; nothing is consumed if there is none. -/
def asciiClass : Reader (Option CharSet) := do
  let before ← get
  let body := before.rest.drop 1
  match body with
  | ':' :: cs =>
    let (negated, cs) := match cs with
      | '^' :: cs => (true, cs)
      | cs => (false, cs)
    let name := cs.takeWhile (· ≠ ':')
    match cs.dropWhile (· ≠ ':') with
    | ':' :: ']' :: rest =>
      match Class.ascii? (String.ofList name) with
      | some s =>
        modify fun st => { st with rest := rest }
        return some (← finishSet negated s)
      | none => return none
    | _ => return none
  | _ => return none

/-- Any number of hyphens that open a class, each standing for itself. -/
def leadingHyphens : Nat → SetState → Reader SetState
  | 0, st => pure st
  | fuel + 1, st => do
    match ← peek with
    | some '-' =>
      drop 1
      skipSpace
      leadingHyphens fuel (st.push (CharSet.single '-') 0)
    | none => fail
    | some _ => return st

/-- The start of a class after its `[`: a `^`, hyphens, and a `]` that stands for itself. -/
def classOpen : Reader (Bool × SetState) := do
  drop 1
  skipSpace
  let negated := (← peek) = some '^'
  if negated then
    drop 1
    skipSpace
  let st ← leadingHyphens ((← get).rest.length + 1) {}
  if st.count = 0 && (← peek) = some ']' then
    drop 1
    skipSpace
    return (negated, st.push (CharSet.single ']') 0)
  else return (negated, st)

/-- The inside of a class up to and including its `]`. -/
def classBody : Nat → Bool → SetState → Reader (CharSet × Nat)
  | 0, _, _ => fail
  | fuel + 1, negated, st => do
    skipSpace
    let operator (op : SetOp) : Reader (CharSet × Nat) := do
      drop 2
      let left ← st.close
      classBody fuel negated { left := some left, op }
    match ← peek, ← second with
    | none, _ => fail
    | some '[', _ =>
      match ← asciiClass with
      | some s => classBody fuel negated (st.push s 0)
      | none =>
        let (inner, start) ← classOpen
        let (s, depth) ← classBody fuel inner start
        classBody fuel negated (st.push s (depth + 1))
    | some ']', _ =>
      drop 1
      let (s, depth) ← st.close
      return (← finishSet negated s, depth)
    | some '&', some '&' => operator .inter
    | some '-', some '-' => operator .diff
    | some '~', some '~' => operator .symmDiff
    | some _, _ =>
      let s ← classRange
      classBody fuel negated (st.push s 0)

/-- A bracketed class. -/
def bracketed : Reader Item := do
  let fuel := (← get).rest.length + 1
  let (negated, st) ← classOpen
  let (s, depth) ← classBody fuel negated st
  return { expr := .set s, depth := depth + 1 }

/-! ## Repetition -/

def skipBlanks : Reader Unit := modify fun s => { s with rest := s.rest.dropWhile Text.isBlank }

/-- Digits, between which the extended flag allows white space. -/
def countDigits : Nat → Reader (List Char)
  | 0 => pure []
  | fuel + 1 => do
    match ← peek with
    | some c =>
      if c.isDigit then
        drop 1
        skipSpace
        return c :: (← countDigits fuel)
      else return []
    | none => return []

/-- A count with white space around it. -/
def count : Reader Nat := do
  skipBlanks
  let digits ← countDigits ((← get).rest.length)
  skipBlanks
  skipSpace
  skipBlanks
  guard (!digits.isEmpty)
  let n := digits.foldl (fun n c => n * 10 + (c.toNat - '0'.toNat)) 0
  guard (n ≤ maxCount)
  return n

/-- Builds the repetition of an item. -/
def repeatItem (item : Item) (min : Nat) (max : Option Nat) (greedy : Bool) : Reader Item := do
  guard item.repeatable
  let greedy := if (← flags).swapGreed then !greedy else greedy
  return { expr := item.expr.repeated min max greedy, depth := item.depth + 1 }

/-- A trailing `?` makes a repetition prefer fewer rounds. -/
def greedyMark : Reader Bool := return !(← eat "?")

/-- The bounds in braces, after the opening brace. -/
def bounds : Reader (Nat × Option Nat) := do
  skipSpace
  let min ← count
  match ← next with
  | '\x7d' => return (min, some min)
  | ',' =>
    skipSpace
    if (← peek) = some '\x7d' then
      drop 1
      return (min, none)
    else
      let max ← count
      guard ((← next) = '\x7d' && min ≤ max)
      return (min, some max)
  | _ => fail

/-! ## Groups and sequences -/

def isNameStart (c : Char) : Bool := c = '_' || c.isAlpha || Unicode.alphabetic.contains c

def isNameChar (c : Char) : Bool :=
  c = '_' || c = '.' || c = '[' || c = ']' || c.isAlphanum || Unicode.alphanumeric.contains c

/-- A group's name and the `>` after it. -/
def groupName : Reader String := do
  let s ← get
  let name := s.rest.takeWhile (· ≠ '>')
  match s.rest.dropWhile (· ≠ '>') with
  | [] => fail
  | _ :: rest =>
    guard (name.head?.any isNameStart && name.tail.all isNameChar)
    let name := String.ofList name
    guard (!s.names.contains name)
    set { s with rest, names := name :: s.names }
    return name

/-- The switches after `(?`, up to the `:` or `)` that ends them. Nothing may be switched twice,
and a hyphen must have something to turn off. -/
def flagSwitches : Nat → (seen : List Flag) → (minus : Bool) → (dangling : Bool) → Flags →
    Reader (Flags × Bool)
  | 0, _, _, _, _ => fail
  | fuel + 1, seen, minus, dangling, f => do
    match ← peek with
    | none => fail
    | some c =>
      if c = ':' || c = ')' then
        guard (!dangling)
        return (f, !seen.isEmpty)
      else
        drop 1
        if c = '-' then
          guard (!minus)
          flagSwitches fuel seen true true f
        else match Flag.ofChar? c with
          | none => fail
          | some flag =>
            guard (!seen.contains flag)
            flagSwitches fuel (flag :: seen) minus false (f.set (!minus) flag)

/-- A sequence from its items, last item first. -/
def joinItems (items : List Item) : Item :=
  match items with
  | [item] => { item with repeatable := true }
  | _ =>
    { expr := Expr.sequence (items.reverse.map Item.expr)
      depth := items.foldl (fun d i => max d (i.depth + 1)) 0 }

/-- Alternatives from the branches, last branch first. -/
def joinBranches (branches : List Item) : Item :=
  match branches with
  | [item] => item
  | _ =>
    { expr := Expr.alternatives (branches.reverse.map Item.expr)
      depth := branches.foldl (fun d i => max d (i.depth + 1)) 0 }

mutual

/-- Alternatives, up to a closing parenthesis or the end. -/
def alternatives : Nat → List Item → Reader Item
  | 0, _ => fail
  | fuel + 1, branches => do
    let branch ← items fuel []
    if (← peek) = some '|' then
      drop 1
      alternatives fuel (branch :: branches)
    else return joinBranches (branch :: branches)

/-- The items of one branch; those read so far are given last first. -/
def items : Nat → List Item → Reader Item
  | 0, _ => fail
  | fuel + 1, done => do
    skipSpace
    match ← peek with
    | none | some ')' | some '|' => return joinItems done
    | some '(' => do
      let item ← groupOrSwitch fuel
      items fuel (item :: done)
    | some '[' => do
      let item ← bracketed
      items fuel (item :: done)
    | some '?' => quantified fuel done 0 (some 1)
    | some '*' => quantified fuel done 0 none
    | some '+' => quantified fuel done 1 none
    | some '\x7b' => do
      match done with
      | [] => fail
      | item :: done =>
        drop 1
        let (min, max) ← bounds
        skipSpace
        let greedy ← greedyMark
        let item ← repeatItem item min max greedy
        items fuel (item :: done)
    | some '\\' => do
      drop 1
      let p ← escape
      let e ← Primitive.toExpr p
      items fuel ({ expr := e } :: done)
    | some '.' => do
      drop 1
      let e ← dot
      items fuel ({ expr := e } :: done)
    | some '^' => do
      drop 1
      let e ← lineStart
      items fuel ({ expr := e } :: done)
    | some '$' => do
      drop 1
      let e ← lineEnd
      items fuel ({ expr := e } :: done)
    | some c => do
      drop 1
      let e ← literal c
      items fuel ({ expr := e } :: done)

/-- A one-character repetition of the last item. -/
def quantified : Nat → List Item → Nat → Option Nat → Reader Item
  | 0, _, _, _ => fail
  | fuel + 1, done, min, max => do
    match done with
    | [] => fail
    | item :: done =>
      drop 1
      let greedy ← greedyMark
      let item ← repeatItem item min max greedy
      items fuel (item :: done)

/-- A group, or a switch of flags that lasts to the end of the group around it. -/
def groupOrSwitch : Nat → Reader Item
  | 0 => fail
  | fuel + 1 => do
    drop 1
    skipSpace
    let rest := (← get).rest
    guard (!(["?=", "?!", "?<=", "?<!"].any fun look => look.toList.isPrefixOf rest))
    if (← eat "?P<") || (← eat "?<") then
      let index := (← get).groups + 1
      modify fun s => { s with groups := index }
      let name ← groupName
      closeGroup fuel (← flags) (some (index, some name))
    else if ← eat "?" then
      let before ← flags
      let (after, any) ← flagSwitches (rest.length + 1) [] false false before
      match ← next with
      | ')' =>
        guard any
        modify fun s => { s with flags := after }
        return { expr := .empty, repeatable := false }
      | _ =>
        modify fun s => { s with flags := after }
        closeGroup fuel before none
    else
      let index := (← get).groups + 1
      modify fun s => { s with groups := index }
      closeGroup fuel (← flags) (some (index, none))

/-- The inside of a group and its closing parenthesis; the flags in force before it return. -/
def closeGroup : Nat → Flags → Option (Nat × Option String) → Reader Item
  | 0, _, _ => fail
  | fuel + 1, outer, capture => do
    let inner ← alternatives fuel []
    modify fun s => { s with flags := outer }
    let c ← next
    guard (c = ')')
    let expr := match capture with
      | some (index, name) => .group index name inner.expr
      | none => inner.expr
    return { expr, depth := inner.depth + 1 }

end

end Reader

/-- Reads a pattern. `none` means that it breaks a rule of the notation. -/
def parse? (pattern : String) : Option Expr := do
  let chars := pattern.toList
  let (item, state) ← (Reader.alternatives (4 * chars.length + 8) []).run { rest := chars }
  guard (state.rest.isEmpty && item.depth ≤ maxNesting)
  return item.expr

end Rulebook.Regex
