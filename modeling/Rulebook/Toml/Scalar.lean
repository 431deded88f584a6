import Rulebook.Decimal.Shortest
import Rulebook.Toml.Token

/-!
# Strings, numbers and dates

What the text of a scalar denotes. A fault is told as the characters from the offending one on, so
that it can be located from the end of the token.
-/

namespace Rulebook.Toml

/-! ## Strings -/

def isHexDigit (c : Char) : Bool :=
  c.isDigit || ('a' ≤ c && c ≤ 'f') || ('A' ≤ c && c ≤ 'F')

/-- The number that digits give in a base of at most sixteen. -/
def digitsValue (base : Nat) (cs : List Char) : Nat :=
  cs.foldl (fun n c => n * base + (if c.isDigit then c.toNat - 48 else c.toLower.toNat - 87)) 0

/-- The character with a number, if the number is a scalar value. -/
def scalarValue? (n : Nat) : Option Char :=
  if n < 0xD800 || (0xDFFF < n && n < 0x110000) then some (Char.ofNat n) else none

/-- The character that an escape denotes and how many characters after the backslash it takes. -/
def escape? : List Char → Option (Char × Nat)
  | [] => none
  | c :: cs =>
    let numbered (width : Nat) : Option (Char × Nat) :=
      let ds := cs.take width
      if ds.length = width && ds.all isHexDigit then
        (scalarValue? (digitsValue 16 ds)).map fun c => (c, width + 1)
      else none
    match c with
    | 'b' => some ('\x08', 1)
    | 't' => some ('\t', 1)
    | 'n' => some ('\n', 1)
    | 'f' => some ('\x0c', 1)
    | 'r' => some ('\r', 1)
    | 'e' => some ('\x1b', 1)
    | '"' => some ('"', 1)
    | '\\' => some ('\\', 1)
    | 'x' => numbered 2
    | 'u' => numbered 4
    | 'U' => numbered 8
    | _ => none

def isBlankChar (c : Char) : Bool := c = ' ' || c = '\t'

/-- What is left after a backslash that ends its line: the line end and all white space after it
are gone. -/
def lineContinuation? (cs : List Char) : Option (List Char) :=
  match cs.dropWhile isBlankChar with
  | '\n' :: rest => some (rest.dropWhile fun c => isBlankChar c || c = '\n' || c = '\r')
  | '\r' :: '\n' :: rest => some (rest.dropWhile fun c => isBlankChar c || c = '\n' || c = '\r')
  | _ => none

/-- The content of a string whose delimiters are taken off. `multi` allows line ends, `escapes`
gives the backslash its meaning. -/
def stringContent (multi escapes : Bool) :
    Nat → List Char → List Char → Except (List Char) (List Char)
  | 0, done, _ => .ok done.reverse
  | _, done, [] => .ok done.reverse
  | fuel + 1, done, c :: cs =>
    if escapes && c = '\\' then
      match escape? cs with
      | some (e, used) => stringContent multi escapes fuel (e :: done) (cs.drop used)
      | none =>
        match if multi then lineContinuation? cs else none with
        | some rest => stringContent multi escapes fuel done rest
        | none => .error (c :: cs)
    else if multi && c = '\n' then stringContent multi escapes fuel (c :: done) cs
    else if multi && c = '\r' && cs.head? = some '\n' then
      stringContent multi escapes fuel (c :: done) cs
    else if isControl c then .error (c :: cs)
    else stringContent multi escapes fuel (c :: done) cs

/-- Takes the closing delimiter off; a string that is not closed is at fault at its end. -/
def unclose (delimiter cs : List Char) : Except (List Char) (List Char) :=
  if delimiter.isSuffixOf cs then .ok (cs.take (cs.length - delimiter.length)) else .error []

/-- A line end right after the opening delimiter does not count. -/
def dropFirstNewline : List Char → List Char
  | '\n' :: cs => cs
  | '\r' :: '\n' :: cs => cs
  | cs => cs

/-- The text that a string token denotes. The remaining characters of a fault end where the token
ends, less the closing delimiter. -/
def stringText (kind : TokenKind) (text : List Char) : Except (List Char) String := do
  let content (multi escapes : Bool) (width : Nat) : Except (List Char) String := do
    let delimiter := text.take width
    let body ← unclose delimiter (text.drop width)
    let body := if multi then dropFirstNewline body else body
    match stringContent multi escapes (body.length + 1) [] body with
    | .ok cs => return String.ofList cs
    | .error rest => .error (rest ++ delimiter)
  match kind with
  | .basic => content false true 1
  | .literal => content false false 1
  | .multiBasic => content true true 3
  | .multiLiteral => content true false 3
  | _ => .error text

/-! ## Numbers -/

/-- Takes the underscores out of digits. Each has to stand between two digits. -/
def plainDigits (isDigit : Char → Bool) : List Char → Option (List Char)
  | [] => none
  | [c] => if isDigit c then some [c] else none
  | c :: '_' :: d :: rest =>
    if isDigit c then (plainDigits isDigit (d :: rest)).map (c :: ·) else none
  | c :: d :: rest => if isDigit c then (plainDigits isDigit (d :: rest)).map (c :: ·) else none

/-- The digits of a decimal number without superfluous zeros in front. -/
def decimalDigits (cs : List Char) : Option (List Char) := do
  let ds ← plainDigits Char.isDigit cs
  if ds.head? = some '0' && 1 < ds.length then none else return ds

def splitSign : List Char → Bool × List Char
  | '-' :: cs => (true, cs)
  | '+' :: cs => (false, cs)
  | cs => (false, cs)

def integer? (cs : List Char) : Option Int :=
  let based (base : Nat) (isDigit : Char → Bool) (ds : List Char) : Option Int :=
    (plainDigits isDigit ds).map fun ds => (digitsValue base ds : Int)
  match cs with
  | '0' :: 'x' :: ds => based 16 isHexDigit ds
  | '0' :: 'o' :: ds => based 8 (fun c => '0' ≤ c && c ≤ '7') ds
  | '0' :: 'b' :: ds => based 2 (fun c => c = '0' || c = '1') ds
  | cs =>
    let (negative, ds) := splitSign cs
    (decimalDigits ds).map fun ds =>
      let n : Int := digitsValue 10 ds
      if negative then -n else n

/-- A float, which is named without an exponent. -/
def floatScalar (f : Float) : Scalar := .float (Decimal.FloatStyle.text ⟨fun _ => true⟩ f)

/-- The float `digits * 10 ^ exponent`, or that it exceeds every float. -/
def floatOf (negative : Bool) (digits : Nat) (exponent : Int) : Scalar :=
  let sign (f : Float) := floatScalar (if negative then -f else f)
  let size := (Nat.toDigits 10 digits).length + exponent
  if digits = 0 || size < -400 then sign 0
  else if 400 < size then .hugeFloat
  else
    let f :=
      if 0 ≤ exponent then Float.ofScientific (digits * Nat.pow 10 exponent.toNat) false 0
      else Float.ofScientific digits true (-exponent).toNat
    if f.isInf then .hugeFloat else sign f

def float? (cs : List Char) : Option Scalar := do
  let (negative, cs) := splitSign cs
  let isExponent (c : Char) := c = 'e' || c = 'E'
  let mantissa := cs.takeWhile fun c => !isExponent c
  let whole ← decimalDigits (mantissa.takeWhile (· ≠ '.'))
  let fraction ←
    match mantissa.dropWhile (· ≠ '.') with
    | [] => some []
    | _ :: ds => plainDigits Char.isDigit ds
  let exponent : Int ←
    match cs.dropWhile fun c => !isExponent c with
    | [] => if fraction.isEmpty then none else some 0
    | _ :: ds =>
      let (negative, ds) := splitSign ds
      (plainDigits Char.isDigit ds).map fun ds =>
        let n : Int := digitsValue 10 ds
        if negative then -n else n
  return floatOf negative (digitsValue 10 (whole ++ fraction)) (exponent - fraction.length)

/-! ## Dates and times -/

/-- A number of exactly `width` digits, and what follows it. -/
def fixedDigits (width : Nat) (cs : List Char) : Option (Nat × List Char) :=
  let ds := cs.take width
  if ds.length = width && ds.all Char.isDigit then some (digitsValue 10 ds, cs.drop width) else none

def isLeapYear (y : Nat) : Bool := y % 4 = 0 && (y % 100 ≠ 0 || y % 400 = 0)

def daysInMonth (y m : Nat) : Nat :=
  if m = 2 then if isLeapYear y then 29 else 28
  else if m = 4 || m = 6 || m = 9 || m = 11 then 30
  else 31

/-- The characters after a date, if the text begins with one. -/
def afterDate? (cs : List Char) : Option (List Char) := do
  let (y, cs) ← fixedDigits 4 cs
  let '-' :: cs := cs | none
  let (m, cs) ← fixedDigits 2 cs
  let '-' :: cs := cs | none
  let (d, cs) ← fixedDigits 2 cs
  if 1 ≤ m && m ≤ 12 && 1 ≤ d && d ≤ daysInMonth y m then return cs else none

/-- The characters after a time of day, if the text begins with one. Seconds may be left out, and
the last minute may have a second more. -/
def afterTime? (cs : List Char) : Option (List Char) := do
  let (h, cs) ← fixedDigits 2 cs
  let ':' :: cs := cs | none
  let (m, cs) ← fixedDigits 2 cs
  if 23 < h || 59 < m then none
  match cs with
  | ':' :: cs =>
    let (s, cs) ← fixedDigits 2 cs
    if 60 < s then none
    match cs with
    | '.' :: cs =>
      if (cs.takeWhile Char.isDigit).isEmpty then none else return cs.dropWhile Char.isDigit
    | cs => return cs
  | cs => return cs

/-- Whether the text is an offset from universal time. -/
def isOffset : List Char → Bool
  | ['Z'] | ['z'] => true
  | c :: cs =>
    (c = '+' || c = '-') &&
    match fixedDigits 2 cs with
    | some (h, ':' :: cs) =>
      match fixedDigits 2 cs with
      | some (m, []) => h * 60 + m ≤ 24 * 60
      | _ => false
    | _ => false
  | [] => false

/-- Whether the text is a date, a time, or both with or without an offset. -/
def isDate (cs : List Char) : Bool :=
  match afterDate? cs with
  | some [] => true
  | some (sep :: cs) =>
    (sep = 'T' || sep = 't' || sep = ' ') &&
    match afterTime? cs with
    | some rest => rest.isEmpty || isOffset rest
    | none => false
  | none => afterTime? cs = some []

/-- What an unquoted scalar denotes. -/
def atomScalar? (cs : List Char) : Option Scalar :=
  let (negative, unsigned) := splitSign cs
  if cs = "true".toList then some (.bool true)
  else if cs = "false".toList then some (.bool false)
  else if unsigned = "inf".toList then
    let infinity : Float := 1.0 / 0.0
    some (floatScalar (if negative then -infinity else infinity))
  else if unsigned = "nan".toList then some (floatScalar (0.0 / 0.0))
  else if isDate cs then some .date
  else ((integer? cs).map Scalar.integer).orElse fun _ => float? cs

end Rulebook.Toml
