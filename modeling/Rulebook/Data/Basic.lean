/-!
# Data

Both data formats, the one for rule files and the one for dumps, are read into one kind of tree,
and everything the program decodes is decoded from such a tree. A node knows the place where it
stands, so that a fault can be located. A text that stops being well formed still has a tree of
what stands before that point, so that the faults of a text are met in the order in which they are
written.
-/

namespace Rulebook

/-- The bytes of a text from `start` up to and not including `stop`. -/
structure Extent where
  start : Nat
  stop : Nat
  deriving Repr, DecidableEq, Inhabited

/-- A value without parts. -/
inductive Scalar where
  | null
  | bool (b : Bool)
  | integer (n : Int)
  /-- A number that is not whole, by its text. -/
  | float (text : String)
  | text (s : String)
  | date
  /-- A float that is written with digits and exceeds every float. -/
  | hugeFloat
  /-- A well-formed literal that denotes no value: half a surrogate pair, a number out of range. -/
  | unreadable
  deriving Repr, DecidableEq, Inhabited

/-- How a list or a record ends. -/
inductive Ending where
  /-- It is closed, and what nobody asked for is left alone. -/
  | loose
  /-- It is closed, and every element has to be used. -/
  | exact
  /-- The text stops being well formed before it is closed. -/
  | broken
  deriving Repr, DecidableEq, Inhabited

/-- The key of a field: as it is written up to the first quote in it, what it denotes if anything,
and where it stands. -/
structure Key where
  raw : String
  text : Option String
  place : Extent
  deriving Repr, DecidableEq, Inhabited

/-- A tree of data. -/
inductive Data where
  | scalar (place : Extent) (s : Scalar)
  | list (place : Extent) (items : List Data) (ending : Ending)
  | record (place : Extent) (fields : List (Key × Data)) (ending : Ending)
  /-- The text stops being well formed where a value should stand. -/
  | broken
  deriving Inhabited

namespace Data

def place : Data → Extent
  | scalar p _ | list p _ _ | record p _ _ => p
  | broken => ⟨0, 0⟩

mutual

/-- Decides whether two trees are the same. -/
def decEq : (a b : Data) → Decidable (a = b)
  | scalar p s, scalar q t => decidable_of_iff (p = q ∧ s = t) (by rw [scalar.injEq])
  | list p xs e, list q ys f =>
    have := decEqItems xs ys
    decidable_of_iff (p = q ∧ xs = ys ∧ e = f) (by rw [list.injEq])
  | record p xs e, record q ys f =>
    have := decEqFields xs ys
    decidable_of_iff (p = q ∧ xs = ys ∧ e = f) (by rw [record.injEq])
  | broken, broken => isTrue rfl
  | scalar .., list .. | scalar .., record .. | scalar .., broken
  | list .., scalar .. | list .., record .. | list .., broken
  | record .., scalar .. | record .., list .. | record .., broken
  | broken, scalar .. | broken, list .. | broken, record .. => isFalse nofun

def decEqItems : (xs ys : List Data) → Decidable (xs = ys)
  | [], [] => isTrue rfl
  | x :: xs, y :: ys =>
    have := decEq x y
    have := decEqItems xs ys
    decidable_of_iff (x = y ∧ xs = ys) (by rw [List.cons.injEq])
  | [], _ :: _ | _ :: _, [] => isFalse nofun

def decEqFields : (xs ys : List (Key × Data)) → Decidable (xs = ys)
  | [], [] => isTrue rfl
  | (k, x) :: xs, (l, y) :: ys =>
    have := decEq x y
    have := decEqFields xs ys
    decidable_of_iff ((k = l ∧ x = y) ∧ xs = ys) (by rw [List.cons.injEq, Prod.mk.injEq])
  | [], _ :: _ | _ :: _, [] => isFalse nofun

end

instance : DecidableEq Data := decEq

end Data

end Rulebook
