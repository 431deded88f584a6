import Rulebook.Data.Basic
import Rulebook.Text.Quoted

/-!
# Faults of data

A tree can fail to be what a decoder asks for in a few ways, each with its text. The texts name
what was found, what was expected and, for records, the fields there are.
-/

namespace Rulebook

/-- What stands where something else was expected. -/
inductive Found where
  | null
  | bool (b : Bool)
  | integer (n : Int)
  | float (text : String)
  | text (s : String)
  | sequence
  | map
  deriving Repr, DecidableEq, Inhabited

/-- Integers beyond 64 bits are told apart by the width that holds them. -/
def Found.message : Found → String
  | null => "null"
  | bool b => s!"boolean \x60{b}\x60"
  | integer n =>
    if -Int.pow 2 63 ≤ n && n < Int.pow 2 64 then s!"integer \x60{n}\x60"
    else if n < Int.pow 2 127 then s!"integer \x60{n}\x60 as i128"
    else s!"integer \x60{n}\x60 as u128"
  | float t => "floating point \x60" ++ t ++ "\x60"
  | text s => "string " ++ Text.quote s
  | sequence => "sequence"
  | map => "map"

/-- How a value fails to be what was asked for. -/
inductive Mismatch where
  | wrongType (found : Found) (expected : String)
  | wrongValue (found : Found) (expected : String)
  | wrongLength (length : Nat) (expected : String)
  | missingField (name : String)
  | unknownField (name : String) (known : List String)
  | duplicateField (name : String)
  | hugeInteger
  | hugeFloat
  deriving Repr, DecidableEq, Inhabited

def ticked (s : String) : String := "\x60" ++ s ++ "\x60"

/-- The names of fields as a choice. -/
def oneOf (names : List String) : String :=
  match names with
  | [] => "there are no fields"
  | [a] => "expected " ++ ticked a
  | [a, b] => "expected " ++ ticked a ++ " or " ++ ticked b
  | _ => "expected one of " ++ ", ".intercalate (names.map ticked)

def Mismatch.message : Mismatch → String
  | wrongType found expected => s!"invalid type: {found.message}, expected {expected}"
  | wrongValue found expected => s!"invalid value: {found.message}, expected {expected}"
  | wrongLength length expected => s!"invalid length {length}, expected {expected}"
  | missingField name => "missing field " ++ ticked name
  | unknownField name known => "unknown field " ++ ticked name ++ ", " ++ oneOf known
  | duplicateField name => "duplicate field " ++ ticked name
  | hugeInteger => "integer number overflowed"
  | hugeFloat => "floating-point number overflowed"

/-- Why a text does not decode: it is not well formed up to the point where the decoder has read,
or a value in it does not fit. -/
inductive Fault where
  | malformed
  | mismatch (place : Extent) (what : Mismatch)
  deriving Repr, DecidableEq, Inhabited

/-- The fault of a value that is not of the expected type. -/
def Data.unexpected (expected : String) : Data → Fault
  | .broken => .malformed
  | .list p _ _ => .mismatch p (.wrongType .sequence expected)
  | .record p _ _ => .mismatch p (.wrongType .map expected)
  | .scalar p s =>
    match s with
    | .null => .mismatch p (.wrongType .null expected)
    | .bool b => .mismatch p (.wrongType (.bool b) expected)
    | .integer n =>
      if n < -Int.pow 2 127 || Int.pow 2 128 ≤ n then .mismatch p .hugeInteger
      else .mismatch p (.wrongType (.integer n) expected)
    | .float t => .mismatch p (.wrongType (.float t) expected)
    | .text t => .mismatch p (.wrongType (.text t) expected)
    | .date => .mismatch p (.wrongType .map expected)
    | .hugeFloat => .mismatch p .hugeFloat
    | .unreadable => .malformed

end Rulebook
