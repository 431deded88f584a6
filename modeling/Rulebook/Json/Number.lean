import Rulebook.Data.Basic
import Rulebook.Decimal.Shortest

/-!
# JSON numbers

A number is read from its digits: without a fraction and an exponent it is whole, unless it takes
more than 64 bits, and otherwise a float. Floats are computed as they are read, in double
precision: the leading digits as a whole number of 64 bits, scaled by a power of ten.
-/

namespace Rulebook.Json

/-- The parts of a number as they are written. -/
structure NumberText where
  negative : Bool
  whole : List Char
  fraction : Option (List Char)
  exponent : Option (Bool × List Char)

def digitValue (c : Char) : Nat := c.toNat - '0'.toNat

/-- Takes digits into a number of 64 bits as long as they fit, and returns the digits left. -/
def takeDigits : Nat → List Char → Nat × List Char
  | n, [] => (n, [])
  | n, c :: cs =>
    let n' := n * 10 + digitValue c
    if n' < UInt64.size then takeDigits n' cs else (n, c :: cs)

/-- The powers of ten that a double holds. -/
def powerOfTen (k : Nat) : Float := Float.ofScientific 1 false k

/-- Scales by a power of ten: in one step when a double holds the power, and by the greatest such
power repeatedly when the exponent is below that. `none` is a result that no double holds. -/
def scale : Nat → Float → Int → Option Float
  | 0, f, _ => some f
  | fuel + 1, f, e =>
    if e.natAbs ≤ 308 then
      if 0 ≤ e then
        let g := f * powerOfTen e.natAbs
        if g.isInf then none else some g
      else some (f / powerOfTen e.natAbs)
    else if f == 0 then some f
    else if 0 ≤ e then none
    else scale fuel (f / powerOfTen 308) (e + 308)

/-- An exponent clamped to 32 bits. -/
def clampExponent (e : Int) : Int := max Int32.minValue.toInt (min e Int32.maxValue.toInt)

/-- The value of an exponent's digits; `none` when it takes more than 32 bits. -/
def exponentValue (digits : List Char) : Option Nat :=
  let n := digits.foldl (fun n c => n * 10 + digitValue c) 0
  if n < Nat.pow 2 31 then some n else none

/-- Floats are named without an exponent as long as their first digit stands for a power of ten from
the fifth negative to the fifteenth. -/
def floatStyle : Decimal.FloatStyle := ⟨fun e => -5 ≤ e && e ≤ 15⟩

/-- The value of a number. -/
def NumberText.toScalar (t : NumberText) : Scalar :=
  let (significand, left) := takeDigits 0 t.whole
  let sign (f : Float) : Scalar := .float (floatStyle.text (if t.negative then -f else f))
  if left.isEmpty && t.fraction.isNone && t.exponent.isNone then
    if !t.negative then .integer significand
    else if significand = 0 || Nat.pow 2 63 < significand then sign significand.toUInt64.toFloat
    else .integer (-significand)
  else
    -- once a digit did not fit, the digits after it only count for the power of ten
    let fraction := t.fraction.getD []
    let (significand, unused) := takeDigits significand fraction
    let used := fraction.length - unused.length
    let base : Int := left.length - used
    match t.exponent with
    | none =>
      match scale 64 significand.toUInt64.toFloat base with
      | some f => sign f
      | none => .unreadable
    | some (negative, digits) =>
      match exponentValue digits with
      | none =>
        if significand ≠ 0 && !negative then .unreadable else sign 0
      | some e =>
        let e := clampExponent (if negative then base - e else base + e)
        match scale 64 significand.toUInt64.toFloat e with
        | some f => sign f
        | none => .unreadable

end Rulebook.Json
