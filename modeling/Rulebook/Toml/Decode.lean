import Rulebook.Data.Decode
import Rulebook.Toml.Document

/-!
# Decoding TOML

A document is first read as a whole and then decoded. So a mistake in the notation is reported
before any value that does not fit, wherever the two stand.
-/

namespace Rulebook.Toml

/-- Why a document does not decode. -/
inductive Fault where
  /-- It breaks a rule of the notation at an offset. -/
  | malformed (offset : Nat)
  /-- A value in it does not fit. -/
  | mismatch (place : Extent) (what : Mismatch)
  deriving Repr, DecidableEq, Inhabited

namespace Fault

/-- The offset of the fault. -/
def offset : Fault → Nat
  | malformed offset => offset
  | mismatch place _ => place.start

def message : Fault → String
  | malformed offset => SyntaxError.message ⟨offset⟩
  | mismatch _ what => what.message

end Fault

/-- Decodes a document. -/
def decode {α : Type} (decoder : Decoder α) (text : String) : Except Fault α :=
  match parse text with
  | .error e => .error (.malformed e.offset)
  | .ok d =>
    match decoder d with
    | .ok a => .ok a
    | .error .malformed => .error (.malformed d.place.stop)
    | .error (.mismatch place what) => .error (.mismatch place what)

end Rulebook.Toml
