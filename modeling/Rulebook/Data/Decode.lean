import Rulebook.Data.Fault

/-!
# Decoding

A decoder reads a tree as a value of some type. Records are decoded field by field in the order of
the tree into a draft, whose fields are filled at most once. A record may also be written as a list
of its fields in declaration order.
-/

namespace Rulebook

abbrev Decoder (α : Type) := Data → Except Fault α

namespace Decoder

variable {α δ : Type}

def text (expected : String) : Decoder String
  | .scalar _ (.text s) => .ok s
  | d => .error (d.unexpected expected)

def string : Decoder String := text "a string"

/-- A whole number below `bound`. -/
def natural (bound : Nat) (expected : String) : Decoder Nat
  | .scalar p (.integer n) =>
    if 0 ≤ n && n < bound then .ok n.toNat
    else .error (.mismatch p (.wrongValue (.integer n) expected))
  | d => .error (d.unexpected expected)

def u32 : Decoder UInt32 := fun d => Nat.toUInt32 <$> natural UInt32.size "u32" d

def u64 : Decoder UInt64 := fun d => Nat.toUInt64 <$> natural UInt64.size "u64" d

/-- A value or null. -/
def optional (item : Decoder α) : Decoder (Option α)
  | .scalar _ .null => .ok none
  | d => some <$> item d

/-- The items of a list, then its end. -/
def items (item : Decoder α) (ds : List Data) (ending : Ending) : Except Fault (List α) := do
  let xs ← ds.mapM item
  if ending = .broken then .error .malformed else return xs

def list (item : Decoder α) : Decoder (List α)
  | .list _ ds ending => items item ds ending
  | d => .error (d.unexpected "a sequence")

/-- What is to be known of a record to decode it: its name, its fields in declaration order,
whether other fields are refused, and how a field goes into a draft. -/
structure Shape (δ : Type) where
  name : String
  fields : List String
  strict : Bool
  set : δ → String → Data → Except Fault δ

/-- The key under which a date presents itself when a record is expected. -/
def dateKey : String := "$__toml_private_datetime"

/-- Puts a field into the draft. -/
def Shape.field (shape : Shape δ) (seen : List String) (draft : δ) (key : Key) (value : Data) :
    Except Fault (List String × δ) :=
  match key.text with
  | none => .error .malformed
  | some name =>
    if shape.fields.contains name then
      if seen.contains name then .error (.mismatch key.place (.duplicateField name))
      else return (name :: seen, ← shape.set draft name value)
    else if shape.strict then .error (.mismatch key.place (.unknownField name shape.fields))
    else return (seen, draft)

/-- The fields of a record in the order of the tree, then its end. -/
def Shape.record (shape : Shape δ) : List String → δ → List (Key × Data) → Ending → Except Fault δ
  | _, draft, [], ending => if ending = .broken then .error .malformed else .ok draft
  | seen, draft, (key, value) :: rest, ending => do
    let (seen, draft) ← shape.field seen draft key value
    shape.record seen draft rest ending

/-- A record written as a list of its first fields. What is left of the list has to be nothing
where all elements have to be used. -/
def Shape.positional (shape : Shape δ) (draft : δ) (ds : List Data) (ending : Ending) :
    Except Fault δ := do
  let draft ← (shape.fields.zip ds).foldlM (fun draft f => shape.set draft f.1 f.2) draft
  if ending = .broken || (ending = .exact && shape.fields.length < ds.length) then
    .error .malformed
  else return draft

/-- The fault of a record from which a field without a default is missing. A list is too short to
hold the field, whose place in it is told. -/
def Shape.missing (shape : Shape δ) (d : Data) (name : String) : Fault :=
  match d with
  | .list p _ _ =>
    let count := shape.fields.length
    let unit := if count = 1 then "element" else "elements"
    .mismatch p (.wrongLength (shape.fields.idxOf name) s!"struct {shape.name} with {count} {unit}")
  | d => .mismatch d.place (.missingField name)

/-- Fills a draft from a record. -/
def Shape.draft (shape : Shape δ) (empty : δ) : Decoder δ
  | .record _ fields ending => shape.record [] empty fields ending
  | .list _ ds ending => shape.positional empty ds ending
  | .scalar p .date => .error (.mismatch p (.unknownField dateKey shape.fields))
  | d => .error (d.unexpected ("struct " ++ shape.name))

/-- Decodes a record: fills a draft and finishes it. `finish` is given the fault to report for a
field that is missing. -/
def Shape.decode (shape : Shape δ) (empty : δ) (finish : δ → (String → Fault) → Except Fault α) :
    Decoder α := fun d => do
  let draft ← shape.draft empty d
  finish draft (shape.missing d)

/-- The value of a field that has no default. -/
def require (value : Option α) (name : String) (missing : String → Fault) : Except Fault α :=
  match value with
  | some v => .ok v
  | none => .error (missing name)

end Decoder

end Rulebook
