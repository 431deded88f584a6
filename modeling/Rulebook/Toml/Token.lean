import Rulebook.Data.Basic

/-!
# Tokens of rule files

Rule files and the configuration are written in TOML. A text is cut into tokens without ever
failing: a string that is not closed ends with its line or with the text, and a run of characters
that is nothing else is an atom, be it a bare key, a number or a mistake.
-/

namespace Rulebook.Toml

/-- Where a text breaks a rule of the notation. -/
structure SyntaxError where
  offset : Nat
  deriving Repr, DecidableEq

def SyntaxError.message (_ : SyntaxError) : String := "toml syntax error"

inductive TokenKind where
  | dot | equals | comma
  | leftBracket | rightBracket | leftBrace | rightBrace
  | blank | comment | newline
  | basic | literal | multiBasic | multiLiteral
  | atom
  deriving Repr, DecidableEq

/-- A token with its bytes. `fault` is the offset of a character that may not stand in it, which is
only looked for in comments and line ends. -/
structure Token where
  kind : TokenKind
  place : Extent
  text : List Char
  fault : Option Nat
  deriving Repr

/-- The number of bytes of some characters. -/
def byteLength (cs : List Char) : Nat := cs.foldl (fun n c => n + c.utf8Size) 0

/-- Characters that may stand nowhere: controls other than the tab. -/
def isControl (c : Char) : Bool := (c < ' ' && c ≠ '\t') || c = '\x7f'

/-- Characters that end an atom. -/
def endsAtom (c : Char) : Bool := ".=,[]\x7b\x7d \t#\r\n".toList.contains c

/-- Splits off a string that is closed by `quote` on its own line. A backslash takes the quote or
backslash after it along when `escapes` holds. -/
def splitString (quote : Char) (escapes : Bool) : List Char → List Char → List Char × List Char
  | done, [] => (done.reverse, [])
  | done, [c] => if c = '\n' then (done.reverse, [c]) else ((c :: done).reverse, [])
  | done, c :: d :: rest =>
    if c = '\n' then (done.reverse, c :: d :: rest)
    else if c = quote then ((c :: done).reverse, d :: rest)
    else if escapes && c = '\\' && (d = '\\' || d = '"') then
      splitString quote escapes (d :: c :: done) rest
    else splitString quote escapes (c :: done) (d :: rest)

/-- The quotes that may stand before the closing three: at most two. -/
def extraQuotes (quote : Char) (done : List Char) : List Char → List Char × List Char
  | c :: d :: rest =>
    if c = quote then
      if d = quote then ((d :: c :: done).reverse, rest) else ((c :: done).reverse, d :: rest)
    else (done.reverse, c :: d :: rest)
  | [c] => if c = quote then ((c :: done).reverse, []) else (done.reverse, [c])
  | [] => (done.reverse, [])

/-- Splits off a string that is closed by three quotes, over any number of lines. -/
def splitMultiString (quote : Char) (escapes : Bool) :
    List Char → List Char → List Char × List Char
  | done, [] => (done.reverse, [])
  | done, [c] => ((c :: done).reverse, [])
  | done, c :: d :: rest =>
    if escapes && c = '\\' && (d = '\\' || d = '"') then
      splitMultiString quote escapes (d :: c :: done) rest
    else if c = quote && d = quote && rest.head? = some quote then
      extraQuotes quote (quote :: quote :: quote :: done) rest.tail
    else splitMultiString quote escapes (c :: done) (d :: rest)

/-- The kind of the next token, its characters and what follows; the text is not empty. -/
def splitToken (c : Char) (cs : List Char) : TokenKind × List Char × List Char :=
  match c with
  | '.' => (.dot, [c], cs)
  | '=' => (.equals, [c], cs)
  | ',' => (.comma, [c], cs)
  | '[' => (.leftBracket, [c], cs)
  | ']' => (.rightBracket, [c], cs)
  | '\x7b' => (.leftBrace, [c], cs)
  | '\x7d' => (.rightBrace, [c], cs)
  | '\n' => (.newline, [c], cs)
  | '\r' =>
    match cs with
    | '\n' :: cs => (.newline, [c, '\n'], cs)
    | cs => (.newline, [c], cs)
  | '#' =>
    let inside (c : Char) := c ≠ '\n' && c ≠ '\r'
    (.comment, c :: cs.takeWhile inside, cs.dropWhile inside)
  | '"' =>
    match cs with
    | '"' :: '"' :: cs =>
      let (text, rest) := splitMultiString '"' true ['"', '"', '"'] cs
      (.multiBasic, text, rest)
    | cs =>
      let (text, rest) := splitString '"' true [c] cs
      (.basic, text, rest)
  | '\x27' =>
    match cs with
    | '\x27' :: '\x27' :: cs =>
      let (text, rest) := splitMultiString c false [c, c, c] cs
      (.multiLiteral, text, rest)
    | cs =>
      let (text, rest) := splitString c false [c] cs
      (.literal, text, rest)
  | c =>
    if c = ' ' || c = '\t' then
      let isBlank (c : Char) := c = ' ' || c = '\t'
      (.blank, c :: cs.takeWhile isBlank, cs.dropWhile isBlank)
    else
      let inside (c : Char) := !endsAtom c
      (.atom, c :: cs.takeWhile inside, cs.dropWhile inside)

/-- The offset of the first forbidden character of a comment or line end. -/
def faultOf (kind : TokenKind) (start : Nat) (text : List Char) : Option Nat :=
  match kind with
  | .comment =>
    let before := text.takeWhile fun c => !isControl c
    if before.length = text.length then none else some (start + byteLength before)
  | .newline => if text = ['\r'] then some start else none
  | _ => none

/-- The tokens of a text that starts at an offset, after those found so far, last first. `fuel`
bounds their number, and every token takes a character. -/
def tokensFrom : Nat → Nat → List Char → List Token → List Token
  | 0, _, _, done => done.reverse
  | _, _, [], done => done.reverse
  | fuel + 1, start, c :: cs, done =>
    let (kind, text, rest) := splitToken c cs
    let stop := start + byteLength text
    tokensFrom fuel stop rest (⟨kind, ⟨start, stop⟩, text, faultOf kind start text⟩ :: done)

/-- The tokens of a text. A byte order mark in front is skipped. -/
def tokens (text : String) : List Token :=
  match text.toList with
  | '\ufeff' :: cs => tokensFrom (cs.length + 1) 3 cs []
  | cs => tokensFrom (cs.length + 1) 0 cs []

end Rulebook.Toml
