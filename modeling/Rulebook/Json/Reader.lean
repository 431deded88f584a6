import Rulebook.Data.Fault
import Rulebook.Json.Number

/-!
# Reading JSON

A text is read as far as it is JSON. Where it stops being JSON the tree has a broken end, and
nothing after that point is looked at. Strings and numbers that are well formed but denote nothing
are kept as unreadable, since it only matters to a decoder that asks for them.

Recursion over nested values is on fuel. Two calls take at least one character, so twice the length
of the text is enough.
-/

namespace Rulebook.Json

def isBlank (c : Char) : Bool := c = ' ' || c = '\n' || c = '\t' || c = '\r'

def skipBlanks (cs : List Char) : List Char := cs.dropWhile isBlank

def hexDigit? (c : Char) : Option Nat :=
  if '0' ≤ c && c ≤ '9' then some (c.toNat - 48)
  else if 'a' ≤ c && c ≤ 'f' then some (c.toNat - 87)
  else if 'A' ≤ c && c ≤ 'F' then some (c.toNat - 55)
  else none

/-- The number that four hexadecimal digits give. -/
def hexUnit (a b c d : Char) : Option Nat := do
  return (((← hexDigit? a) * 16 + (← hexDigit? b)) * 16 + (← hexDigit? c)) * 16 + (← hexDigit? d)

/-- The character that a one-letter escape denotes. -/
def simpleEscape? (c : Char) : Option Char :=
  if c = '"' || c = '\\' || c = '/' then some c
  else if c = 'b' then some '\x08'
  else if c = 'f' then some '\x0c'
  else if c = 'n' then some '\n'
  else if c = 'r' then some '\r'
  else if c = 't' then some '\t'
  else none

/-- What has been read of a string: its characters, last first, unless an escape turned out to be
half a surrogate pair, and the first half of a pair that waits for the second. -/
structure StringState where
  done : Option (List Char) := some []
  high : Option Nat := none

/-- Takes a character. A waiting first half is then alone. -/
def StringState.push (st : StringState) (c : Char) : StringState :=
  if st.high.isSome then ⟨none, none⟩ else ⟨st.done.map (c :: ·), none⟩

/-- Takes a unit of sixteen bits, which may be half a surrogate pair. -/
def StringState.pushUnit (st : StringState) (n : Nat) : StringState :=
  if n < 0xD800 || 0xDFFF < n then st.push (Char.ofNat n)
  else match st.high with
    | some h =>
      if 0xDC00 ≤ n then
        ⟨st.done.map (Char.ofNat (0x10000 + (h - 0xD800) * 1024 + (n - 0xDC00)) :: ·), none⟩
      else ⟨none, none⟩
    | none => if n < 0xDC00 then { st with high := some n } else ⟨none, none⟩

/-- What the string denotes, if anything. -/
def StringState.finish (st : StringState) : Option (List Char) :=
  if st.high.isSome then none else st.done.map List.reverse

/-- A string after its opening quote: what it denotes, unless an escape is half a pair, and the
text after the closing quote. `none` means that the string is broken. -/
def stringBody : StringState → List Char → Option (Option (List Char) × List Char)
  | _, [] => none
  | st, '\\' :: 'u' :: a :: b :: c :: d :: rest =>
    match hexUnit a b c d with
    | some n => stringBody (st.pushUnit n) rest
    | none => none
  | st, '\\' :: e :: rest =>
    match simpleEscape? e with
    | some c => stringBody (st.push c) rest
    | none => none
  | st, c :: rest =>
    if c = '"' then some (st.finish, rest)
    else if c < ' ' || c = '\\' then none
    else stringBody (st.push c) rest

/-- A number, and the text after it. -/
def number (cs : List Char) : Option (NumberText × List Char) :=
  let (negative, cs) := match cs with
    | '-' :: cs => (true, cs)
    | cs => (false, cs)
  let whole := cs.takeWhile Char.isDigit
  let rest := cs.dropWhile Char.isDigit
  if whole.isEmpty || (1 < whole.length && whole.head? = some '0') then none
  else
    let fraction := match rest with
      | '.' :: more =>
        let ds := more.takeWhile Char.isDigit
        if ds.isEmpty then none else some (some ds, more.dropWhile Char.isDigit)
      | _ => some (none, rest)
    match fraction with
    | none => none
    | some (fraction, rest) =>
      let exponent (after : List Char) :=
        let (minus, after) := match after with
          | '-' :: after => (true, after)
          | '+' :: after => (false, after)
          | after => (false, after)
        let ds := after.takeWhile Char.isDigit
        if ds.isEmpty then none
        else some (⟨negative, whole, fraction, some (minus, ds)⟩, after.dropWhile Char.isDigit)
      match rest with
      | 'e' :: after => exponent after
      | 'E' :: after => exponent after
      | _ => some (⟨negative, whole, fraction, none⟩, rest)

/-- Where nothing needs a place. -/
def nowhere : Extent := ⟨0, 0⟩

def leaf (s : Scalar) : Data := .scalar nowhere s

/-- A key from the text after its opening quote and from what it denotes. -/
def keyOf (cs : List Char) (text : Option (List Char)) : Key :=
  ⟨String.ofList (cs.takeWhile (· ≠ '"')), text.map String.ofList, nowhere⟩

mutual

/-- A value and the text after it; no text comes after a broken one. -/
def value : Nat → List Char → Data × Option (List Char)
  | 0, _ => (.broken, none)
  | fuel + 1, cs =>
    match skipBlanks cs with
    | 'n' :: 'u' :: 'l' :: 'l' :: rest => (leaf .null, some rest)
    | 't' :: 'r' :: 'u' :: 'e' :: rest => (leaf (.bool true), some rest)
    | 'f' :: 'a' :: 'l' :: 's' :: 'e' :: rest => (leaf (.bool false), some rest)
    | '"' :: rest =>
      match stringBody {} rest with
      | some (some s, rest) => (leaf (.text (String.ofList s)), some rest)
      | some (none, rest) => (leaf .unreadable, some rest)
      | none => (.broken, none)
    | '[' :: rest =>
      match skipBlanks rest with
      | ']' :: rest => (.list nowhere [] .exact, some rest)
      | rest => elements fuel rest []
    | '\x7b' :: rest =>
      match skipBlanks rest with
      | '\x7d' :: rest => (.record nowhere [] .exact, some rest)
      | rest => members fuel rest []
    | rest =>
      match number rest with
      | some (n, rest) => (leaf n.toScalar, some rest)
      | none => (.broken, none)

/-- The elements of an array, after those read so far, last first. -/
def elements : Nat → List Char → List Data → Data × Option (List Char)
  | 0, _, done => (.list nowhere done.reverse .broken, none)
  | fuel + 1, cs, done =>
    let (v, rest) := value fuel cs
    match rest with
    | none => (.list nowhere (v :: done).reverse .broken, none)
    | some rest =>
      match skipBlanks rest with
      | ',' :: rest => elements fuel rest (v :: done)
      | ']' :: rest => (.list nowhere (v :: done).reverse .exact, some rest)
      | _ => (.list nowhere (v :: done).reverse .broken, none)

/-- The members of an object, after those read so far, last first. -/
def members : Nat → List Char → List (Key × Data) → Data × Option (List Char)
  | 0, _, done => (.record nowhere done.reverse .broken, none)
  | fuel + 1, cs, done =>
    let broken (key : Key) (v : Data) : Data × Option (List Char) :=
      (.record nowhere ((key, v) :: done).reverse .broken, none)
    match skipBlanks cs with
    | '"' :: cs =>
      match stringBody {} cs with
      | none => broken (keyOf cs none) .broken
      | some (text, rest) =>
        let key := keyOf cs text
        match skipBlanks rest with
        | ':' :: rest =>
          let (v, rest) := value fuel rest
          match rest with
          | none => broken key v
          | some rest =>
            match skipBlanks rest with
            | ',' :: rest => members fuel rest ((key, v) :: done)
            | '\x7d' :: rest => (.record nowhere ((key, v) :: done).reverse .exact, some rest)
            | _ => broken key v
        | _ => broken key .broken
    | _ => (.record nowhere done.reverse .broken, none)

end

/-- A whole text as data, and whether nothing but white space follows the value. -/
def read (text : String) : Data × Bool :=
  let cs := text.toList
  let (v, rest) := value (2 * cs.length + 2) cs
  (v, rest.any fun r => (skipBlanks r).isEmpty)

/-- Decodes a whole text. What follows the value counts after everything in it. -/
def decode {α : Type} (decoder : Data → Except Fault α) (text : String) : Except Fault α := do
  let (v, closed) := read text
  let a ← decoder v
  if closed then return a else .error Fault.malformed

end Rulebook.Json
