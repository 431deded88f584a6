import Rulebook.Unicode.Class

/-!
# Character classes of patterns

The shorthands `\d`, `\s` and `\w`, and the ASCII classes that brackets can name, such as
`[:alpha:]`.
-/

namespace Rulebook.Regex

namespace Class

/-- Decimal digits. -/
def digits : CharSet := Unicode.categories ["nd"]

/-- White space. -/
def spaces : CharSet := Unicode.listed "whitespace"

/-- Word characters: letters, marks, decimal digits, connectors and joiners. -/
def words : CharSet :=
  CharSet.unions [Unicode.alphabetic, Unicode.categories ["mc", "me", "mn", "nd", "pc"],
    Unicode.listed "joincontrol"]

def asciiRanges (rs : List (Char × Char)) : CharSet :=
  CharSet.ofRanges (rs.map fun r => ⟨r.1.toNat, r.2.toNat⟩)

def asciiDigits : CharSet := asciiRanges [('0', '9')]

def asciiSpaces : CharSet := asciiRanges [('\t', '\r'), (' ', ' ')]

def asciiWords : CharSet := asciiRanges [('0', '9'), ('A', 'Z'), ('_', '_'), ('a', 'z')]

/-- The ASCII classes that brackets can name. -/
def ascii? (name : String) : Option CharSet :=
  match name with
  | "alnum" => some (asciiRanges [('0', '9'), ('A', 'Z'), ('a', 'z')])
  | "alpha" => some (asciiRanges [('A', 'Z'), ('a', 'z')])
  | "ascii" => some (CharSet.range 0 0x7F)
  | "blank" => some (asciiRanges [('\t', '\t'), (' ', ' ')])
  | "cntrl" => some (CharSet.ofRanges [⟨0, 0x1F⟩, ⟨0x7F, 0x7F⟩])
  | "digit" => some asciiDigits
  | "graph" => some (asciiRanges [('!', '~')])
  | "lower" => some (asciiRanges [('a', 'z')])
  | "print" => some (asciiRanges [(' ', '~')])
  | "punct" => some (asciiRanges [('!', '/'), (':', '@'), ('[', '\x60'), ('\x7b', '~')])
  | "space" => some asciiSpaces
  | "upper" => some (asciiRanges [('A', 'Z')])
  | "word" => some asciiWords
  | "xdigit" => some (asciiRanges [('0', '9'), ('A', 'F'), ('a', 'f')])
  | _ => none

/-- The set closed under exchanging ASCII capitals and small letters. -/
def foldAscii (s : CharSet) : CharSet :=
  let letters := (List.range 26).flatMap fun i =>
    if s.containsCode (65 + i) || s.containsCode (97 + i) then [65 + i, 97 + i] else []
  s.union (CharSet.ofRanges (letters.map fun c => ⟨c, c⟩))

end Class

end Rulebook.Regex
