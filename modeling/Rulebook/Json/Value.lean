/-!
# JSON values and their printed forms

A value is printed on one line or over several lines, two spaces to a level. In a string a quote, a
backslash and the control characters are escaped, five of those by a letter; every other character
stands for itself.
-/

namespace Rulebook

/-- A JSON value. The members of an object are printed in the order of the list. -/
inductive Json where
  | null
  | bool (b : Bool)
  | num (n : Nat)
  | str (s : String)
  | arr (items : List Json)
  | obj (members : List (String × Json))
  deriving Inhabited

namespace Json

/-- The lower-case hexadecimal digit of a number below sixteen. -/
def hexChar (n : Nat) : Char :=
  if n < 10 then Char.ofNat (48 + n) else Char.ofNat (87 + n)

/-- A character as it stands inside a string. -/
def escapeChar (c : Char) : List Char :=
  if c = '"' then ['\\', '"']
  else if c = '\\' then ['\\', '\\']
  else if ' ' ≤ c then [c]
  else if c = '\x08' then ['\\', 'b']
  else if c = '\t' then ['\\', 't']
  else if c = '\n' then ['\\', 'n']
  else if c = '\x0c' then ['\\', 'f']
  else if c = '\r' then ['\\', 'r']
  else ['\\', 'u', '0', '0', hexChar (c.toNat / 16), hexChar (c.toNat % 16)]

/-- A string with its quotes. -/
def quote (s : String) : List Char := '"' :: s.toList.flatMap escapeChar ++ ['"']

/-- The text of a leaf. -/
def digits (n : Nat) : List Char := Nat.toDigits 10 n

mutual

/-- A value on one line, with what follows it. -/
def compact : Json → List Char → List Char
  | null, rest => "null".toList ++ rest
  | bool true, rest => "true".toList ++ rest
  | bool false, rest => "false".toList ++ rest
  | num n, rest => digits n ++ rest
  | str s, rest => quote s ++ rest
  | arr items, rest => '[' :: compactItems items (']' :: rest)
  | obj members, rest => '\x7b' :: compactMembers members ('\x7d' :: rest)

def compactItems : List Json → List Char → List Char
  | [], rest => rest
  | [v], rest => v.compact rest
  | v :: vs, rest => v.compact (',' :: compactItems vs rest)

def compactMembers : List (String × Json) → List Char → List Char
  | [], rest => rest
  | [(k, v)], rest => quote k ++ ':' :: v.compact rest
  | (k, v) :: ms, rest => quote k ++ ':' :: v.compact (',' :: compactMembers ms rest)

end

/-- A line break and the indentation of a level. -/
def newline (level : Nat) : List Char := '\n' :: List.replicate (2 * level) ' '

mutual

/-- A value over several lines at a level of indentation, with what follows it. -/
def pretty : Nat → Json → List Char → List Char
  | level, arr items, rest =>
    match items with
    | [] => '[' :: ']' :: rest
    | _ => '[' :: prettyItems (level + 1) items (newline level ++ ']' :: rest)
  | level, obj members, rest =>
    match members with
    | [] => '\x7b' :: '\x7d' :: rest
    | _ => '\x7b' :: prettyMembers (level + 1) members (newline level ++ '\x7d' :: rest)
  | _, leaf, rest => leaf.compact rest

def prettyItems : Nat → List Json → List Char → List Char
  | _, [], rest => rest
  | level, [v], rest => newline level ++ v.pretty level rest
  | level, v :: vs, rest => newline level ++ v.pretty level (',' :: prettyItems level vs rest)

def prettyMembers : Nat → List (String × Json) → List Char → List Char
  | _, [], rest => rest
  | level, [(k, v)], rest => newline level ++ quote k ++ ':' :: ' ' :: v.pretty level rest
  | level, (k, v) :: ms, rest =>
    newline level ++ quote k ++ ':' :: ' ' :: v.pretty level (',' :: prettyMembers level ms rest)

end

/-- The value on one line. -/
def toLine (v : Json) : String := String.ofList (v.compact [])

/-- The value over several lines. -/
def toLines (v : Json) : String := String.ofList (v.pretty 0 [])

end Json

end Rulebook
