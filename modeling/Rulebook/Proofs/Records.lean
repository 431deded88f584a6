import Rulebook.Data.Decode
import Rulebook.Proofs.JsonReading
import Mathlib.Data.List.Forall2

/-!
# Records in any order

A record that passes over what it does not declare can be written in many ways: its fields come in
any order, those that may be left out are there or not, and other fields stand among them
(`Data.IsRecord`).

**Theorem (`decode_of_isRecord`).** All of them decode to the same value.

The draft is followed through the fields of the record. What it holds depends only on which of the
declared fields have been read, not on the order, so there is one draft `fill seen` for each list
`seen` of names, and reading a field takes `fill seen` to `fill (name :: seen)` (`Takes`). At the
end the fields that have not been read are ones that may be left out (`exists_record_eq_ok`).
-/

namespace Rulebook

open Decoder

/-! ## What stands in a tree -/

namespace Data

def IsText (s : String) : Data → Prop
  | .scalar _ (.text t) => t = s
  | _ => False

def IsNumber (n : Nat) : Data → Prop
  | .scalar _ (.integer i) => i = n
  | _ => False

/-- A closed list of values, in this order. -/
def IsList {α : Type} (holds : α → Data → Prop) (xs : List α) : Data → Prop
  | .list _ items ending => ending ≠ .broken ∧ List.Forall₂ holds xs items
  | _ => False

/-- What stands under a name in a record. -/
def valuesOf (name : String) (fields : List (Key × Data)) : List Data :=
  fields.filterMap fun f => if f.1.text = some name then some f.2 else none

/-- A declared field: its name, what has to stand under it, and whether it may be left out. -/
structure Slot where
  name : String
  holds : Data → Prop
  optional : Prop

/-- The field stands in a record, once. -/
def Slot.In (s : Slot) (fields : List (Key × Data)) : Prop :=
  (∃ d, valuesOf s.name fields = [d] ∧ s.holds d) ∨ valuesOf s.name fields = [] ∧ s.optional

/-- A closed record with the declared fields. Nothing is said about their order, nor about fields
with other names. -/
def IsRecord (slots : List Slot) : Data → Prop
  | .record _ fields ending =>
    ending ≠ .broken ∧ (∀ f ∈ fields, f.1.text.isSome = true) ∧ ∀ s ∈ slots, s.In fields
  | _ => False

theorem valuesOf_cons_of_eq {name : String} {key : Key} {value : Data} {fields : List (Key × Data)}
    (h : key.text = some name) :
    valuesOf name ((key, value) :: fields) = value :: valuesOf name fields :=
  List.filterMap_cons_some (if_pos h)

theorem valuesOf_cons_of_ne {name : String} {key : Key} {value : Data} {fields : List (Key × Data)}
    (h : key.text ≠ some name) : valuesOf name ((key, value) :: fields) = valuesOf name fields :=
  List.filterMap_cons_none (if_neg h)

end Data

open Data

/-! ## Decoding it -/

namespace Decoder

variable {α : Type} {d : Data}

theorem text_of_isText {s : String} (h : d.IsText s) (expected : String) :
    text expected d = .ok s := by
  unfold IsText at h
  split at h
  · exact congrArg Except.ok h
  · exact h.elim

theorem string_of_isText {s : String} (h : d.IsText s) : string d = .ok s :=
  text_of_isText h "a string"

theorem natural_of_isNumber {n bound : Nat} (h : d.IsNumber n) (hn : n < bound)
    (expected : String) : natural bound expected d = .ok n := by
  unfold IsNumber at h
  split at h
  · subst h
    simp [natural, hn]
  · exact h.elim

theorem u32_of_isNumber {n : UInt32} (h : d.IsNumber n.toNat) : u32 d = .ok n := by
  unfold u32
  rw [natural_of_isNumber h n.toNat_lt_size]
  exact congrArg Except.ok n.ofNat_toNat

theorem u64_of_isNumber {n : UInt64} (h : d.IsNumber n.toNat) : u64 d = .ok n := by
  unfold u64
  rw [natural_of_isNumber h n.toNat_lt_size]
  exact congrArg Except.ok n.ofNat_toNat

theorem mapM_of_forall₂ {α β ε : Type} {f : α → Except ε β} {as : List α} {bs : List β}
    (h : List.Forall₂ (fun a b => f a = .ok b) as bs) : as.mapM f = .ok bs := by
  induction h with
  | nil => rfl
  | cons hhead _ ih =>
    rw [List.mapM_cons, hhead, ih]
    rfl

theorem list_of_isList {holds : α → Data → Prop} {item : Decoder α} {xs : List α}
    (h : d.IsList holds xs) (hitem : ∀ x d, holds x d → item d = .ok x) :
    list item d = .ok xs := by
  unfold IsList at h
  split at h
  · obtain ⟨hending, hxs⟩ := h
    have hread := mapM_of_forall₂ (hxs.flip.imp fun d x => hitem x d)
    simp [list, items, hread, hending]
  · exact h.elim

namespace Shape

variable {δ : Type} {shape : Shape δ} {slots : List Slot} {fill : List String → δ}

/-- Each declared field goes into the draft in which some have been read, whichever they are. -/
def Takes (shape : Shape δ) (slots : List Slot) (fill : List String → δ) : Prop :=
  ∀ s ∈ slots, ∀ d, s.holds d → ∀ seen,
    shape.set (fill seen) s.name d = .ok (fill (s.name :: seen))

/-- What there still is to read of a declared field: nothing once it has been read. -/
def Left (s : Slot) (seen : List String) (fields : List (Key × Data)) : Prop :=
  if s.name ∈ seen then valuesOf s.name fields = [] else s.In fields

theorem Left.tail_of_eq {s : Slot} {seen : List String} {key : Key} {value : Data}
    {fields : List (Key × Data)} (h : Left s seen ((key, value) :: fields))
    (hkey : key.text = some s.name) :
    s.name ∉ seen ∧ s.holds value ∧ valuesOf s.name fields = [] := by
  unfold Left at h
  rw [valuesOf_cons_of_eq hkey] at h
  by_cases hseen : s.name ∈ seen
  · rw [if_pos hseen] at h
    cases h
  · rw [if_neg hseen, Slot.In, valuesOf_cons_of_eq hkey] at h
    rcases h with ⟨d, hvalues, hd⟩ | ⟨hvalues, -⟩
    · obtain ⟨rfl, hrest⟩ := List.cons.inj hvalues
      exact ⟨hseen, hd, hrest⟩
    · cases hvalues

theorem Left.tail_of_ne {s : Slot} {seen : List String} {key : Key} {value : Data}
    {fields : List (Key × Data)} (h : Left s seen ((key, value) :: fields))
    (hkey : key.text ≠ some s.name) : Left s seen fields := by
  unfold Left Slot.In at h ⊢
  rwa [valuesOf_cons_of_ne hkey] at h

theorem field_of_declared {seen : List String} {draft draft' : δ} {key : Key} {name : String}
    {value : Data} (hkey : key.text = some name) (hname : name ∈ shape.fields)
    (hseen : name ∉ seen) (hset : shape.set draft name value = .ok draft') :
    shape.field seen draft key value = .ok (name :: seen, draft') := by
  simp [field, hkey, hname, hseen, hset]

theorem field_of_undeclared {seen : List String} {draft : δ} {key : Key} {name : String}
    {value : Data} (hloose : shape.strict = false) (hkey : key.text = some name)
    (hname : name ∉ shape.fields) : shape.field seen draft key value = .ok (seen, draft) := by
  simp [field, hkey, hname, hloose]
  rfl

/-- **The fields of a record**, read one after the other. -/
theorem exists_record_eq_ok (hloose : shape.strict = false)
    (hdeclared : shape.fields = slots.map Slot.name) (htakes : shape.Takes slots fill)
    {fields : List (Key × Data)} (hnamed : ∀ f ∈ fields, f.1.text.isSome = true) {ending : Ending}
    (hending : ending ≠ .broken) (seen : List String) (hleft : ∀ s ∈ slots, Left s seen fields) :
    ∃ seen', (∀ s ∈ slots, s.name ∈ seen' ∨ s.optional) ∧
      shape.record seen (fill seen) fields ending = .ok (fill seen') := by
  induction fields generalizing seen with
  | nil =>
    refine ⟨seen, fun s hs => ?_, if_neg hending⟩
    by_cases hseen : s.name ∈ seen
    · exact .inl hseen
    · have hs' := hleft s hs
      rw [Left, if_neg hseen] at hs'
      rcases hs' with ⟨d, hvalues, -⟩ | ⟨-, hoptional⟩
      · cases hvalues
      · exact .inr hoptional
  | cons f fields ih =>
    obtain ⟨key, value⟩ := f
    obtain ⟨hkey, hnamed⟩ := List.forall_mem_cons.1 hnamed
    obtain ⟨name, hname⟩ := Option.isSome_iff_exists.1 hkey
    replace hname : key.text = some name := hname
    show ∃ seen', _ ∧ (shape.field seen (fill seen) key value >>= fun next =>
      shape.record next.1 next.2 fields ending) = .ok (fill seen')
    by_cases hmem : name ∈ shape.fields
    · -- a declared field, which has not been read and will not come again
      obtain ⟨s, hs, rfl⟩ := List.mem_map.1 (hdeclared ▸ hmem)
      obtain ⟨hseen, hvalue, hrest⟩ := (hleft s hs).tail_of_eq hname
      rw [field_of_declared hname hmem hseen (htakes s hs value hvalue seen)]
      refine ih hnamed (s.name :: seen) fun s' hs' => ?_
      by_cases hsame : s'.name = s.name
      · rw [Left, if_pos (hsame ▸ List.mem_cons_self), hsame]
        exact hrest
      · have hne : key.text ≠ some s'.name :=
          fun h => hsame (Option.some.inj (h.symm.trans hname))
        simpa [Left, hsame] using (hleft s' hs').tail_of_ne hne
    · -- a field with another name
      rw [field_of_undeclared hloose hname hmem]
      refine ih hnamed seen fun s hs => (hleft s hs).tail_of_ne fun h => hmem ?_
      rw [hdeclared, Option.some.inj (hname.symm.trans h)]
      exact List.mem_map_of_mem hs

/-- **A record decodes** however its fields are laid out. -/
theorem decode_of_isRecord (hloose : shape.strict = false)
    (hdeclared : shape.fields = slots.map Slot.name) (htakes : shape.Takes slots fill)
    {finish : δ → (String → Fault) → Except Fault α} {a : α}
    (hfinish : ∀ seen, (∀ s ∈ slots, s.name ∈ seen ∨ s.optional) →
      ∀ missing, finish (fill seen) missing = .ok a)
    (hd : d.IsRecord slots) : shape.decode (fill []) finish d = .ok a := by
  unfold IsRecord at hd
  split at hd
  next place fields ending =>
    obtain ⟨hending, hnamed, hslots⟩ := hd
    have hleft : ∀ s ∈ slots, Left s [] fields := by simpa [Left] using hslots
    obtain ⟨seen, hseen, hrecord⟩ :=
      exists_record_eq_ok hloose hdeclared htakes hnamed hending [] hleft
    show (shape.record [] (fill []) fields ending >>= fun draft =>
      finish draft (shape.missing (.record place fields ending))) = .ok a
    rw [hrecord]
    exact hfinish seen hseen _
  · exact hd.elim

end Shape

end Decoder

/-! ## What JSON values are read as -/

namespace Json

theorem isText_toData (s : String) : (str s).toData.IsText s := rfl

theorem isNumber_toData {n : Nat} (h : n < UInt64.size) : (num n).toData.IsNumber n := by
  rw [toData, toScalar_wholeText h]
  rfl

theorem isNumber_toData_uint32 (n : UInt32) : (num n.toNat).toData.IsNumber n.toNat :=
  isNumber_toData (Nat.lt_trans n.toNat_lt_size (by decide))

theorem isNumber_toData_uint64 (n : UInt64) : (num n.toNat).toData.IsNumber n.toNat :=
  isNumber_toData n.toNat_lt_size

theorem isList_toData {α : Type} {holds : α → Data → Prop} {write : α → Json} {xs : List α}
    (h : ∀ x ∈ xs, holds x (write x).toData) : (arr (xs.map write)).toData.IsList holds xs := by
  rw [toData, itemsToData_eq, List.map_map]
  refine ⟨by simp, List.forall₂_map_right_iff.2 ?_⟩
  exact List.forall₂_same.2 h

theorem valuesOf_membersToData (name : String) (ms : List (String × Json)) :
    valuesOf name (membersToData ms) = (ms.filter (·.1 = name)).map fun m => m.2.toData := by
  induction ms with
  | nil => rfl
  | cons m ms ih =>
    rw [membersToData]
    by_cases hname : m.1 = name
    · rw [valuesOf_cons_of_eq (congrArg some hname), ih, List.filter_cons_of_pos (by simpa),
        List.map_cons]
    · have hkey : (memberKey m.1).text ≠ some name := fun h => hname (Option.some.inj h)
      rw [valuesOf_cons_of_ne hkey, ih, List.filter_cons_of_neg (by simpa)]

theorem isRecord_toData {slots : List Slot} {ms : List (String × Json)}
    (h : ∀ s ∈ slots, s.In (membersToData ms)) : (obj ms).toData.IsRecord slots := by
  refine ⟨by simp, fun f hf => ?_, h⟩
  rw [membersToData_eq] at hf
  obtain ⟨m, -, rfl⟩ := List.mem_map.1 hf
  rfl

end Json

end Rulebook
