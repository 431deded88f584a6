/-!
# Shortest decimal text

A positive float is `m * 2 ^ q`. The decimals that read back as it form an interval around it,
ends included when `m` is even. `shortest` gives the fewest digits that lie in the interval, and of
two decimals with that many digits the nearer. A float is then written with a decimal point, or with
an exponent where its style says so.
-/

namespace Rulebook.Decimal

/-- A positive binary number `m * 2 ^ q`. `lowerGap` says that the next smaller float is only half
as far away as the next greater one. -/
structure Binary where
  m : Nat
  q : Int
  lowerGap : Bool
  deriving Repr

/-- The magnitude that the bits of a finite nonzero double encode. -/
def Binary.ofBits (bits : UInt64) : Binary :=
  let fraction : Nat := bits.toNat % Nat.pow 2 52
  let exponent : Nat := bits.toNat / Nat.pow 2 52 % Nat.pow 2 11
  if exponent = 0 then ⟨fraction, -1074, false⟩
  else ⟨Nat.pow 2 52 + fraction, (exponent : Int) - 1075, fraction = 0 && exponent ≠ 1⟩

/-- `a * 2 ^ q` and `b * 10 ^ p` as whole numbers in one common unit. -/
def scaleBinary (a : Nat) (q p : Int) : Nat := a * Nat.pow 2 q.toNat * Nat.pow 10 (-p).toNat

def scaleDecimal (b : Nat) (q p : Int) : Nat := b * Nat.pow 10 p.toNat * Nat.pow 2 (-q).toNat

/-- Whether `c * 10 ^ p` lies in the interval of decimals that read back. -/
def Binary.readsBack (b : Binary) (c : Nat) (p : Int) : Bool :=
  let x := scaleDecimal c (b.q - 2) p
  let lo := scaleBinary (4 * b.m - if b.lowerGap then 1 else 2) (b.q - 2) p
  let hi := scaleBinary (4 * b.m + 2) (b.q - 2) p
  if b.m % 2 = 0 then lo ≤ x && x ≤ hi else lo < x && x < hi

/-- The number of digits before the decimal point, negative when zeros follow the point. -/
def Binary.magnitude (b : Binary) : Int :=
  let num := b.m * Nat.pow 2 b.q.toNat
  let den := Nat.pow 2 (-b.q).toNat
  if den ≤ num then (Nat.toDigits 10 (num / den)).length
  else
    -- the least power of ten that brings the number to one or above
    let k := ((List.range 400).find? fun k => den ≤ num * Nat.pow 10 k).getD 400
    1 - (k : Int)

/-- The candidate with unit `10 ^ p`: of the two neighbours on that grid that read back, the
nearer; a tie goes to the even one. -/
def Binary.onGrid (b : Binary) (p : Int) : Option Nat :=
  let v := scaleBinary b.m b.q p
  let unit := scaleDecimal 1 b.q p
  let below := v / unit
  let above := below + 1
  let ok := b.readsBack below p && 0 < below
  let ok' := b.readsBack above p
  let r := v % unit
  if ok && ok' then
    some (if 2 * r < unit then below else if unit < 2 * r then above
      else if below % 2 = 0 then below else above)
  else if ok then some below
  else if ok' then some above
  else none

/-- The shortest digits and the power of ten of their unit. -/
def Binary.shortest (b : Binary) : Nat × Int :=
  let e := b.magnitude
  let found := (List.range 17).findSome? fun n =>
    let p := e - (n + 1 : Nat)
    (b.onGrid p).map fun c => (c, p)
  found.getD (b.m, b.q)

def zeros (n : Nat) : List Char := List.replicate n '0'

/-- `c * 10 ^ p` in positional notation with at least one digit on either side of the point. -/
def positional (c : Nat) (p : Int) : String :=
  let ds := Nat.toDigits 10 c
  let text :=
    if 0 ≤ p then ds ++ zeros p.toNat ++ ['.', '0']
    else
      let k := (-p).toNat
      let ds := zeros (k + 1 - ds.length) ++ ds
      ds.take (ds.length - k) ++ '.' :: ds.drop (ds.length - k)
  String.ofList text

/-- Drops the zeros at the end of a whole number into its power of ten. -/
def stripZeros : Nat → Nat → Int → Nat × Int
  | 0, c, p => (c, p)
  | fuel + 1, c, p => if c % 10 = 0 && c ≠ 0 then stripZeros fuel (c / 10) (p + 1) else (c, p)

/-- `c * 10 ^ p` with its first digit before the point, if more digits follow, and with a signed
exponent. -/
def scientific (c : Nat) (p : Int) : String :=
  let ds := Nat.toDigits 10 c
  let e := p + (ds.length - 1 : Nat)
  let sign := if e < 0 then "-" else "+"
  let point := if ds.length = 1 then "" else "."
  String.ofList (ds.take 1) ++ point ++ String.ofList (ds.drop 1) ++ "e" ++ sign ++
    toString e.natAbs

/-- How floats are written: for which powers of ten of the first digit without an exponent. -/
structure FloatStyle where
  isPositional : Int → Bool

/-- The text of a float. -/
def FloatStyle.text (style : FloatStyle) (f : Float) : String :=
  let bits := f.toBits
  let sign := if bits ≥ 0x8000000000000000 then "-" else ""
  let magnitude := bits % 0x8000000000000000
  if magnitude > 0x7FF0000000000000 then "NaN"
  else if magnitude = 0x7FF0000000000000 then sign ++ "inf"
  else if magnitude = 0 then sign ++ "0.0"
  else
    let (c, p) := (Binary.ofBits magnitude).shortest
    let (c, p) := stripZeros 400 c p
    let e := p + ((Nat.toDigits 10 c).length - 1 : Nat)
    sign ++ if style.isPositional e then positional c p else scientific c p

end Rulebook.Decimal
