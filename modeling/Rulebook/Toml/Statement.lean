import Rulebook.Toml.Token

/-!
# Statements

A text is a list of statements: table headers, and keys with their values. At this stage only the
structure is checked; what keys and scalars denote is not looked at yet, so that every fault of
structure is found before any other.
-/

namespace Rulebook.Toml

/-- Values may be nested this deep. -/
def maxDepth : Nat := 80

/-- A value whose scalars are still text. -/
inductive RawValue where
  | scalar (kind : TokenKind) (place : Extent) (text : List Char)
  | list (place : Extent) (items : List RawValue)
  | table (place : Extent) (entries : List (List Token × RawValue))
  deriving Inhabited

/-- A header names a table, or with doubled brackets an element of a list of tables. -/
inductive Statement where
  | header (element : Bool) (place : Extent) (path : List Token)
  | entry (path : List Token) (value : RawValue)
  deriving Inhabited

/-- The tokens to come and the end of the last one that is not blank. -/
structure Cursor where
  tokens : List Token
  last : Nat

namespace Cursor

/-- Where a fault at the next token is reported. At the end of the text it is reported right after
the last token that is not blank. -/
def offset (c : Cursor) : Nat :=
  match c.tokens with
  | t :: _ => t.place.start
  | [] => c.last

def fail {α : Type} (c : Cursor) : Except SyntaxError α := .error ⟨c.offset⟩

def kind (c : Cursor) : Option TokenKind := c.tokens.head?.map Token.kind

/-- Passes a token. -/
def skip (c : Cursor) : Cursor :=
  match c.tokens with
  | t :: ts => ⟨ts, t.place.stop⟩
  | [] => c

/-- Skips blanks on the line. -/
def skipBlank (c : Cursor) : Cursor :=
  match c.tokens with
  | t :: ts => if t.kind = .blank then ⟨ts, c.last⟩ else c
  | [] => c

/-- Skips blanks, comments and line ends, which may not hold forbidden characters. -/
def skipTrivia (last : Nat) : List Token → Except SyntaxError Cursor
  | [] => .ok ⟨[], last⟩
  | t :: ts =>
    if t.kind = .blank || t.kind = .comment || t.kind = .newline then
      match t.fault with
      | some offset => .error ⟨offset⟩
      | none => skipTrivia last ts
    else .ok ⟨t :: ts, last⟩

def trivia (c : Cursor) : Except SyntaxError Cursor := skipTrivia c.last c.tokens

/-- Requires the line to end here, after an optional comment. -/
def lineEnd (c : Cursor) : Except SyntaxError Cursor :=
  let c := c.skipBlank
  let check (t : Token) (c : Cursor) : Except SyntaxError Cursor :=
    match t.fault with
    | some offset => .error ⟨offset⟩
    | none => .ok c
  let newline (c : Cursor) : Except SyntaxError Cursor :=
    match c.tokens with
    | [] => .ok c
    | t :: ts => if t.kind = .newline then check t ⟨ts, c.last⟩ else c.fail
  match c.tokens with
  | t :: ts =>
    if t.kind = .comment then do newline (← check t ⟨ts, c.last⟩) else newline c
  | [] => .ok c

end Cursor

/-- Whether a token can stand as a key. -/
def Token.isKey (t : Token) : Bool :=
  match t.kind with
  | .basic | .literal | .multiBasic | .multiLiteral | .atom => true
  | _ => false

/-- Keys joined by dots. -/
def keyPath : Nat → Cursor → Except SyntaxError (List Token × Cursor)
  | 0, c => c.fail
  | fuel + 1, c =>
    match c.tokens with
    | t :: _ =>
      if t.isKey then
        let c := c.skip.skipBlank
        if c.kind = some .dot then do
          let (path, c) ← keyPath fuel c.skip.skipBlank
          return (t :: path, c)
        else return ([t], c)
      else c.fail
    | [] => c.fail

/-- The atoms and dots that make one unquoted scalar. -/
def scalarRun (last : Nat) : List Token → List Char × Cursor
  | [] => ([], ⟨[], last⟩)
  | t :: ts =>
    if t.kind = .atom || t.kind = .dot then
      let (text, c) := scalarRun t.place.stop ts
      (t.text ++ text, c)
    else ([], ⟨t :: ts, last⟩)

/-- Whether characters have the form of a date. -/
def looksLikeDate (cs : List Char) : Bool :=
  cs.map (fun c => if c.isDigit then '0' else c) = "0000-00-00".toList

/-- An unquoted scalar. A date may be followed by a blank and a time. -/
def unquoted (start : Nat) (c : Cursor) : RawValue × Cursor :=
  let (text, c) := scalarRun c.last c.tokens
  let done (text : List Char) (c : Cursor) : RawValue × Cursor :=
    (.scalar .atom ⟨start, c.last⟩ text, c)
  match c.tokens with
  | b :: t :: ts =>
    if b.text = [' '] && t.kind = .atom && t.text.head?.any Char.isDigit && looksLikeDate text then
      let (time, c) := scalarRun c.last (t :: ts)
      done (text ++ ' ' :: time) c
    else done text c
  | _ => done text c

mutual

/-- A value at a depth of nesting. -/
def rawValue : Nat → Nat → Cursor → Except SyntaxError (RawValue × Cursor)
  | 0, _, c => c.fail
  | fuel + 1, depth, c =>
    match c.tokens with
    | [] => c.fail
    | t :: _ =>
      match t.kind with
      | .basic | .literal | .multiBasic | .multiLiteral =>
        .ok (.scalar t.kind t.place t.text, c.skip)
      | .atom | .dot => .ok (unquoted t.place.start c)
      | .leftBracket =>
        if maxDepth ≤ depth then c.fail else listItems fuel (depth + 1) t.place.start c.skip []
      | .leftBrace =>
        if maxDepth ≤ depth then c.fail else tableEntries fuel (depth + 1) t.place.start c.skip []
      | _ => c.fail

/-- The rest of a list after its bracket or a comma, with the items so far, last first. -/
def listItems : Nat → Nat → Nat → Cursor → List RawValue →
    Except SyntaxError (RawValue × Cursor)
  | 0, _, _, c, _ => c.fail
  | fuel + 1, depth, start, c, done => do
    let close (c : Cursor) (done : List RawValue) : RawValue × Cursor :=
      let c := c.skip
      (.list ⟨start, c.last⟩ done.reverse, c)
    let c ← c.trivia
    if c.kind = some .rightBracket then return close c done
    else
      let (v, c) ← rawValue fuel depth c
      let c ← c.trivia
      if c.kind = some .comma then listItems fuel depth start c.skip (v :: done)
      else if c.kind = some .rightBracket then return close c (v :: done)
      else c.fail

/-- The rest of a table after its brace or a comma, with the entries so far, last first. -/
def tableEntries : Nat → Nat → Nat → Cursor → List (List Token × RawValue) →
    Except SyntaxError (RawValue × Cursor)
  | 0, _, _, c, _ => c.fail
  | fuel + 1, depth, start, c, done => do
    let close (c : Cursor) (done : List (List Token × RawValue)) : RawValue × Cursor :=
      let c := c.skip
      (.table ⟨start, c.last⟩ done.reverse, c)
    let c ← c.trivia
    if c.kind = some .rightBrace then return close c done
    else
      let (path, c) ← keyPath fuel c
      if c.kind = some .equals then
        let (v, c) ← rawValue fuel depth c.skip.skipBlank
        let c ← c.trivia
        if c.kind = some .comma then tableEntries fuel depth start c.skip ((path, v) :: done)
        else if c.kind = some .rightBrace then return close c ((path, v) :: done)
        else c.fail
      else c.fail

end

/-- A table header after its first bracket. -/
def header (fuel start : Nat) (c : Cursor) : Except SyntaxError (Statement × Cursor) := do
  let element := c.kind = some .leftBracket
  let c := if element then c.skip else c
  let (path, c) ← keyPath fuel c.skipBlank
  if c.kind = some .rightBracket then
    let c := c.skip
    if element then
      if c.kind = some .rightBracket then
        let c := c.skip
        return (.header true ⟨start, c.last⟩ path, ← c.lineEnd)
      else c.fail
    else return (.header false ⟨start, c.last⟩ path, ← c.lineEnd)
  else c.fail

/-- An entry from its key on. A value without a key has an empty one. -/
def entry (fuel : Nat) (c : Cursor) : Except SyntaxError (Statement × Cursor) := do
  let (path, c) ←
    if c.kind = some .equals then
      let here : Extent := ⟨c.offset, c.offset⟩
      pure ([{ kind := .atom, place := here, text := [], fault := none }], c)
    else keyPath fuel c
  if c.kind = some .equals then
    let (v, c) ← rawValue fuel 0 c.skip.skipBlank
    return (.entry path v, ← c.lineEnd)
  else c.fail

/-- The statements, after those read so far, last first. -/
def statementsFrom : Nat → Cursor → List Statement → Except SyntaxError (List Statement)
  | 0, c, _ => c.fail
  | fuel + 1, c, done => do
    let c ← c.trivia
    match c.tokens with
    | [] => return done.reverse
    | t :: _ =>
      if t.kind = .leftBracket then
        let (s, c) ← header fuel t.place.start c.skip
        statementsFrom fuel c (s :: done)
      else
        let (s, c) ← entry fuel c
        statementsFrom fuel c (s :: done)

/-- The statements of a text. -/
def statements (text : String) : Except SyntaxError (List Statement) :=
  let ts := tokens text
  statementsFrom (2 * ts.length + 4) ⟨ts, 0⟩ []

end Rulebook.Toml
