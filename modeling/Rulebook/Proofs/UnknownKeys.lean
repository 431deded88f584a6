import Rulebook.Check.Config
import Rulebook.Proofs.Failures

/-!
# Keys that are not declared

A table that stands for a record may have keys that the record does not declare.

**Theorem (`exists_ofData_eq_error`).** A configuration with such a key in any of its tables does
not decode, whatever else is in it.

Records are decoded field by field, so a record fails when one of its fields fails with every draft;
this is an induction on the fields (`exists_record_eq_error`). A field that is not declared fails
with every draft, and so does one whose value never decodes, which leads from a table to the tables
around it.
-/

namespace Rulebook

/-- A table has a field with a value. -/
inductive Data.HasField : Data → String → Data → Prop
  | mk {place : Extent} {fields : List (Key × Data)} {ending : Ending} {key : Key} {name : String}
      {value : Data} : (key, value) ∈ fields → key.text = some name →
      HasField (.record place fields ending) name value

/-! ## Records -/

namespace Decoder.Shape

variable {α δ : Type} {shape : Shape δ} {key : Key} {name : String} {value d : Data}

/-- A field fails with every draft. -/
def Refuses (shape : Shape δ) (name : String) (value : Data) : Prop :=
  ∀ seen draft key, key.text = some name → ∃ e, shape.field seen draft key value = .error e

theorem refuses_of_undeclared (hstrict : shape.strict = true) (hname : name ∉ shape.fields)
    (value : Data) : shape.Refuses name value := by
  intro seen draft key hkey
  simp [field, hkey, hname, hstrict]

theorem refuses_of_set (hname : name ∈ shape.fields)
    (hset : ∀ draft, ∃ e, shape.set draft name value = .error e) : shape.Refuses name value := by
  intro seen draft key hkey
  by_cases hseen : name ∈ seen
  · simp [field, hkey, hname, hseen]
  · obtain ⟨e, he⟩ := hset draft
    exact ⟨e, by simp [field, hkey, hname, hseen, he, bind, Except.bind]⟩

/-- A record fails when one of its fields fails with every draft. -/
theorem exists_record_eq_error {fields : List (Key × Data)} (hmem : (key, value) ∈ fields)
    (hkey : key.text = some name) (h : shape.Refuses name value) (seen : List String) (draft : δ)
    (ending : Ending) : ∃ e, shape.record seen draft fields ending = .error e := by
  induction fields generalizing seen draft with
  | nil => exact absurd hmem List.not_mem_nil
  | cons f fields ih =>
    obtain ⟨key', value'⟩ := f
    show ∃ e, (shape.field seen draft key' value' >>= fun next =>
      shape.record next.1 next.2 fields ending) = .error e
    cases hfirst : shape.field seen draft key' value' with
    | error e => exact ⟨e, rfl⟩
    | ok next =>
      rcases List.mem_cons.1 hmem with heq | hmem
      · cases heq
        obtain ⟨e, he⟩ := h seen draft key hkey
        cases hfirst.symm.trans he
      · exact ih hmem next.1 next.2

theorem exists_decode_eq_error (hfield : d.HasField name value) (h : shape.Refuses name value)
    (empty : δ) (finish : δ → (String → Fault) → Except Fault α) :
    ∃ e, shape.decode empty finish d = .error e := by
  obtain ⟨hmem, hkey⟩ := hfield
  obtain ⟨e, he⟩ := exists_record_eq_error hmem hkey h [] empty _
  exact ⟨e, bind_eq_error_iff.2 (.inl he)⟩

end Decoder.Shape

/-- A document that is no value of the type asked for is at fault. -/
theorem Toml.exists_decode_eq_error {α : Type} {decoder : Decoder α} {text : String} {d : Data}
    (hparse : parse text = .ok d) (h : ∃ e, decoder d = .error e) :
    ∃ fault, decode decoder text = .error fault := by
  obtain ⟨e, he⟩ := h
  unfold decode
  rw [hparse]
  simp only [he]
  cases e with
  | malformed => exact ⟨_, rfl⟩
  | mismatch place what => exact ⟨_, rfl⟩

/-! ## Configurations -/

namespace Config

open Decoder

/-- One of the tables of a configuration has a key that is not declared for it. -/
inductive UnknownKey (d : Data) : Prop
  | top {name : String} {value : Data} : d.HasField name value → name ∉ ["checker", "parse"] →
      UnknownKey d
  | checker {table : Data} {name : String} {value : Data} : d.HasField "checker" table →
      table.HasField name value → name ∉ ["rules", "debug", "fail_on_error", "order"] →
      UnknownKey d
  | parse {table : Data} {name : String} {value : Data} : d.HasField "parse" table →
      table.HasField name value → name ∉ ["importable"] → UnknownKey d

/-- **A key that is not declared** makes a configuration fail. -/
theorem exists_ofData_eq_error {d : Data} (h : UnknownKey d) : ∃ e, ofData d = .error e := by
  unfold ofData
  cases h with
  | top hfield hname =>
    exact Shape.exists_decode_eq_error hfield (Shape.refuses_of_undeclared rfl hname _) _ _
  | @checker table name value htable hfield hname =>
    have hrefuses : checkerShape.Refuses name value := Shape.refuses_of_undeclared rfl hname value
    have hset (draft : Config) : ∃ e, shape.set draft "checker" table = .error e := by
      obtain ⟨e, he⟩ := Shape.exists_decode_eq_error hfield hrefuses {} fun draft _ => .ok draft
      exact ⟨e, bind_eq_error_iff.2 (.inl he)⟩
    exact Shape.exists_decode_eq_error htable (Shape.refuses_of_set (by decide) hset) _ _
  | @parse table name value htable hfield hname =>
    have hrefuses : parseShape.Refuses name value := Shape.refuses_of_undeclared rfl hname value
    have hset (draft : Config) : ∃ e, shape.set draft "parse" table = .error e := by
      obtain ⟨e, he⟩ := Shape.exists_decode_eq_error hfield hrefuses [] fun draft _ => .ok draft
      exact ⟨e, bind_eq_error_iff.2 (.inl he)⟩
    exact Shape.exists_decode_eq_error htable (Shape.refuses_of_set (by decide) hset) _ _

end Config

end Rulebook
