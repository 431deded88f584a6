import Rulebook.Unicode.Class

/-!
# Quoted text

A text in double quotes in which everything can be seen: quotes and backslashes are escaped, and
so is every character that does not print or that would attach to the character before it.
-/

namespace Rulebook.Text

/-- The characters that do not print by themselves: controls, formats, unassigned and private
ones, separators other than the space, and those that extend the character before them. -/
def unprintable : CharSet :=
  (CharSet.unions [Unicode.categories ["cc", "cf", "cn", "co", "zl", "zp", "zs"],
    Unicode.graphemeExtend]).diff (CharSet.single ' ')

def hexDigits (n : Nat) : String := String.ofList (Nat.toDigits 16 n)

/-- A character as it stands between double quotes. -/
def quoteChar (c : Char) : String :=
  match c with
  | '\x00' => "\\0"
  | '\t' => "\\t"
  | '\n' => "\\n"
  | '\r' => "\\r"
  | '"' => "\\\""
  | '\\' => "\\\\"
  | c =>
    if (c < '\x7f' && ' ' ≤ c) || !unprintable.contains c then String.singleton c
    else "\\u\x7b" ++ hexDigits c.toNat ++ "\x7d"

/-- A text between double quotes. -/
def quote (s : String) : String :=
  "\"" ++ String.join (s.toList.map quoteChar) ++ "\""

/-- An optional text as descriptions write it. -/
def quoteOption : Option String → String
  | none => "None"
  | some s => "Some(" ++ quote s ++ ")"

/-- A path between double quotes. Apostrophes are escaped too. -/
def quotePath (s : String) : String :=
  "\"" ++ String.join (s.toList.map fun c => if c = '\x27' then "\\'" else quoteChar c) ++ "\""

end Rulebook.Text
