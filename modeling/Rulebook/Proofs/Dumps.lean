import Rulebook.Proofs.Records
import Rulebook.Unit.Dump

/-!
# Dumps are read back

A front end may write a dump in many ways: with or without the fields that hold their defaults, with
the fields of each record in any order, with further fields in them, and with any white space
(`UnitFile.WrittenAs`).

**Theorem (`UnitFile.parse_of_writtenAs`).** Every text of that kind is read as the dump, among them
both printed forms.

Each record has its declared fields, with what stands under them and which may be left out
(`slots`), and a draft for each set of fields that have been read (`draft`). That the fields go into
the drafts is all that has to be shown for each record (`takes`); the rest is
`Decoder.Shape.decode_of_isRecord`. The type table has no declared fields. Its keys are the ids as
they are printed, and its entries make up the table in any order.
-/

namespace Rulebook

open Decoder Data

/-- A field that is not left out unless it holds the default is filled in. -/
theorem ite_eq_of_or {α : Type} {p : Prop} [Decidable p] {a default : α} (h : p ∨ a = default) :
    (if p then a else default) = a := by
  by_cases hp : p
  · exact if_pos hp
  · rw [if_neg hp]
    exact (h.resolve_left hp).symm

/-! ## Spans -/

namespace Span

def slots (s : Span) : List Slot :=
  [⟨"start", IsNumber s.start.toNat, False⟩, ⟨"end", IsNumber s.stop.toNat, False⟩]

def WrittenAs (s : Span) : Data → Prop := IsRecord s.slots

/-- What has been read when some of the fields have been. -/
def draft (s : Span) (seen : List String) : Draft where
  start := if "start" ∈ seen then some s.start else none
  stop := if "end" ∈ seen then some s.stop else none

theorem takes (s : Span) : shape.Takes s.slots s.draft := by
  simp only [Shape.Takes, slots, List.forall_mem_cons]
  refine ⟨fun d hd seen => ?_, fun d hd seen => ?_, fun _ h => absurd h List.not_mem_nil⟩
  · simp [shape, draft, u32_of_isNumber hd]
  · simp [shape, draft, u32_of_isNumber hd]

theorem ofData_of_writtenAs {s : Span} {d : Data} (h : s.WrittenAs d) : ofData d = .ok s := by
  refine Shape.decode_of_isRecord rfl rfl s.takes (fun seen hseen missing => ?_) h
  simp only [slots, List.forall_mem_cons, or_false] at hseen
  obtain ⟨hstart, hstop, -⟩ := hseen
  simp only [draft, hstart, hstop, if_true]
  rfl

theorem writtenAs_toJson (s : Span) : s.WrittenAs s.toJson.toData := by
  refine Json.isRecord_toData ?_
  simp [slots, Slot.In, Json.valuesOf_membersToData, Json.isNumber_toData_uint32]

end Span

/-! ## Units -/

namespace Node

def slots (n : Node) : List Slot :=
  [⟨"id", IsNumber n.id.toNat, False⟩, ⟨"kind", IsText n.kind, False⟩,
    ⟨"span", n.span.WrittenAs, n.span = {}⟩, ⟨"text", IsText n.text, n.text = ""⟩]

def WrittenAs (n : Node) : Data → Prop := IsRecord n.slots

/-- What has been read when some of the fields have been. -/
def draft (n : Node) (seen : List String) : Draft where
  id := if "id" ∈ seen then some n.id else none
  kind := if "kind" ∈ seen then some n.kind else none
  span := if "span" ∈ seen then n.span else {}
  text := if "text" ∈ seen then n.text else ""

theorem takes (n : Node) : shape.Takes n.slots n.draft := by
  simp only [Shape.Takes, slots, List.forall_mem_cons]
  refine ⟨fun d hd seen => ?_, fun d hd seen => ?_, fun d hd seen => ?_, fun d hd seen => ?_,
    fun _ h => absurd h List.not_mem_nil⟩
  · simp [shape, draft, u32_of_isNumber hd]
  · simp [shape, draft, string_of_isText hd]
  · simp [shape, draft, Span.ofData_of_writtenAs hd]
  · simp [shape, draft, string_of_isText hd]

theorem ofData_of_writtenAs {n : Node} {d : Data} (h : n.WrittenAs d) : ofData d = .ok n := by
  refine Shape.decode_of_isRecord rfl rfl n.takes (fun seen hseen missing => ?_) h
  simp only [slots, List.forall_mem_cons, or_false] at hseen
  obtain ⟨hid, hkind, hspan, htext, -⟩ := hseen
  simp only [draft, hid, hkind, if_true, ite_eq_of_or hspan, ite_eq_of_or htext]
  rfl

theorem writtenAs_toJson (n : Node) : n.WrittenAs n.toJson.toData := by
  refine Json.isRecord_toData ?_
  simp [slots, Slot.In, Json.valuesOf_membersToData, Json.isNumber_toData_uint32,
    Json.isText_toData, n.span.writtenAs_toJson]

end Node

namespace SourceUnit

def slots (u : SourceUnit) : List Slot :=
  [⟨"path", IsText u.path, False⟩, ⟨"package", IsText u.package, u.package = ""⟩,
    ⟨"source", IsText u.source, u.source = ""⟩,
    ⟨"nodes", IsList Node.WrittenAs u.nodes.toList, u.nodes.toList = []⟩]

def WrittenAs (u : SourceUnit) : Data → Prop := IsRecord u.slots

/-- What has been read when some of the fields have been. -/
def draft (u : SourceUnit) (seen : List String) : Draft where
  path := if "path" ∈ seen then some u.path else none
  package := if "package" ∈ seen then u.package else ""
  source := if "source" ∈ seen then u.source else ""
  nodes := if "nodes" ∈ seen then u.nodes.toList else []

theorem takes (u : SourceUnit) : shape.Takes u.slots u.draft := by
  simp only [Shape.Takes, slots, List.forall_mem_cons]
  refine ⟨fun d hd seen => ?_, fun d hd seen => ?_, fun d hd seen => ?_, fun d hd seen => ?_,
    fun _ h => absurd h List.not_mem_nil⟩
  · simp [shape, draft, text_of_isText hd]
  · simp [shape, draft, string_of_isText hd]
  · simp [shape, draft, string_of_isText hd]
  · simp [shape, draft, list_of_isList hd fun _ _ => Node.ofData_of_writtenAs]

theorem ofData_of_writtenAs {u : SourceUnit} {d : Data} (h : u.WrittenAs d) :
    ofData d = .ok u := by
  refine Shape.decode_of_isRecord rfl rfl u.takes (fun seen hseen missing => ?_) h
  simp only [slots, List.forall_mem_cons, or_false] at hseen
  obtain ⟨hpath, hpackage, hsource, hnodes, -⟩ := hseen
  simp only [draft, hpath, if_true, ite_eq_of_or hpackage, ite_eq_of_or hsource,
    ite_eq_of_or hnodes]
  rfl

theorem writtenAs_toJson (u : SourceUnit) : u.WrittenAs u.toJson.toData := by
  have hnodes : (Json.arr (u.nodes.toList.map Node.toJson)).toData.IsList Node.WrittenAs
      u.nodes.toList := Json.isList_toData fun n _ => n.writtenAs_toJson
  refine Json.isRecord_toData ?_
  simp [slots, Slot.In, Json.valuesOf_membersToData, Json.isText_toData, hnodes]

end SourceUnit

/-! ## What comes with a unit -/

namespace Package

def slots (p : Package) : List Slot :=
  [⟨"path", IsText p.path, p.path = ""⟩, ⟨"name", IsText p.name, p.name = ""⟩,
    ⟨"symbols", IsList IsText p.symbols.toList, p.symbols = ∅⟩,
    ⟨"imports", IsList IsText p.imports.toList, p.imports = ∅⟩]

def WrittenAs (p : Package) : Data → Prop := IsRecord p.slots

/-- What has been read when some of the fields have been. -/
def draft (p : Package) (seen : List String) : Package where
  path := if "path" ∈ seen then p.path else ""
  name := if "name" ∈ seen then p.name else ""
  symbols := if "symbols" ∈ seen then p.symbols else ∅
  imports := if "imports" ∈ seen then p.imports else ∅

theorem namesOfData_of_isList {names : SortedSet String} {d : Data}
    (h : d.IsList IsText names.toList) : namesOfData d = .ok names := by
  unfold namesOfData
  rw [list_of_isList h fun _ _ => string_of_isText]
  exact congrArg Except.ok names.ofList_toList

theorem takes (p : Package) : shape.Takes p.slots p.draft := by
  simp only [Shape.Takes, slots, List.forall_mem_cons]
  refine ⟨fun d hd seen => ?_, fun d hd seen => ?_, fun d hd seen => ?_, fun d hd seen => ?_,
    fun _ h => absurd h List.not_mem_nil⟩
  · simp [shape, draft, string_of_isText hd]
  · simp [shape, draft, string_of_isText hd]
  · simp [shape, draft, namesOfData_of_isList hd]
  · simp [shape, draft, namesOfData_of_isList hd]

theorem ofData_of_writtenAs {p : Package} {d : Data} (h : p.WrittenAs d) : ofData d = .ok p := by
  refine Shape.decode_of_isRecord rfl rfl p.takes (fun seen hseen missing => ?_) h
  simp only [slots, List.forall_mem_cons] at hseen
  obtain ⟨hpath, hname, hsymbols, himports, -⟩ := hseen
  simp only [draft, ite_eq_of_or hpath, ite_eq_of_or hname, ite_eq_of_or hsymbols,
    ite_eq_of_or himports]

theorem writtenAs_toJson (p : Package) : p.WrittenAs p.toJson.toData := by
  have hnames (names : SortedSet String) :
      (Json.arr (names.toList.map .str)).toData.IsList IsText names.toList :=
    Json.isList_toData fun s _ => Json.isText_toData s
  refine Json.isRecord_toData ?_
  simp [slots, Slot.In, Json.valuesOf_membersToData, Json.isText_toData, hnames]

end Package

namespace Sizes

def slots (s : Sizes) : List Slot :=
  [⟨"word_size", IsNumber s.wordSize.toNat, False⟩,
    ⟨"max_align", IsNumber s.maxAlign.toNat, False⟩]

def WrittenAs (s : Sizes) : Data → Prop := IsRecord s.slots

/-- What has been read when some of the fields have been. -/
def draft (s : Sizes) (seen : List String) : Draft where
  wordSize := if "word_size" ∈ seen then some s.wordSize else none
  maxAlign := if "max_align" ∈ seen then some s.maxAlign else none

theorem takes (s : Sizes) : shape.Takes s.slots s.draft := by
  simp only [Shape.Takes, slots, List.forall_mem_cons]
  refine ⟨fun d hd seen => ?_, fun d hd seen => ?_, fun _ h => absurd h List.not_mem_nil⟩
  · simp [shape, draft, u64_of_isNumber hd]
  · simp [shape, draft, u64_of_isNumber hd]

theorem ofData_of_writtenAs {s : Sizes} {d : Data} (h : s.WrittenAs d) : ofData d = .ok s := by
  refine Shape.decode_of_isRecord rfl rfl s.takes (fun seen hseen missing => ?_) h
  simp only [slots, List.forall_mem_cons, or_false] at hseen
  obtain ⟨hword, halign, -⟩ := hseen
  simp only [draft, hword, halign, if_true]
  rfl

theorem writtenAs_toJson (s : Sizes) : s.WrittenAs s.toJson.toData := by
  refine Json.isRecord_toData ?_
  simp [slots, Slot.In, Json.valuesOf_membersToData, Json.isNumber_toData_uint64]

end Sizes

/-! ## Type tables -/

namespace TypeTable

/-- An entry: the id as it is printed, and the name of the type. -/
def EntryWrittenAs (e : NodeId × String) (f : Key × Data) : Prop :=
  f.1.raw = toString e.1.toNat ∧ f.2.IsText e.2

/-- A type table is a record of its entries, in any order. -/
def WrittenAs (t : TypeTable) : Data → Prop
  | .record _ fields ending =>
    ending ≠ .broken ∧ ∃ es, es.Perm t.entries ∧ List.Forall₂ EntryWrittenAs es fields
  | _ => False

theorem idOfKey_of_raw {id : NodeId} {key : Key} (h : key.raw = toString id.toNat) :
    idOfKey key = .ok id := by
  have hend : Json.EndsNumber [] := fun _ hc => by cases hc
  have hnumber := Json.number_digits id.toNat hend
  rw [List.append_nil] at hnumber
  have hscalar := Json.toScalar_wholeText (Nat.lt_trans id.toNat_lt_size (by decide))
  have hid : u32 (.scalar key.place (Json.wholeText id.toNat).toScalar) = .ok id := by
    rw [hscalar]
    exact u32_of_isNumber rfl
  unfold idOfKey
  rw [h, Json.toList_toString, hnumber]
  simp [hid]

theorem addAll_of_forall₂ {es : List (NodeId × String)} {fields : List (Key × Data)}
    (h : List.Forall₂ EntryWrittenAs es fields) (types : TypeTable) :
    addAll types fields = .ok (es.foldl (fun m e => m.insert e.1 e.2) types) := by
  induction h generalizing types with
  | nil => rfl
  | @cons e f es fields hf _ ih =>
    obtain ⟨key, value⟩ := f
    obtain ⟨hkey, hvalue⟩ := hf
    have hid : idOfKey key = .ok e.1 := idOfKey_of_raw hkey
    show (idOfKey key >>= fun id => Decoder.string value >>= fun type =>
      addAll (types.insert id type) fields) = _
    rw [hid, string_of_isText hvalue]
    exact ih (types.insert e.1 e.2)

theorem ofData_of_writtenAs {t : TypeTable} {d : Data} (h : WrittenAs t d) :
    ofData d = .ok t := by
  unfold WrittenAs at h
  split at h
  · obtain ⟨hending, es, hperm, hfields⟩ := h
    have hall := addAll_of_forall₂ hfields ∅
    rw [show es.foldl (fun m e => m.insert e.1 e.2) ∅ = t from SortedMap.ofList_of_perm hperm]
      at hall
    simp [ofData, hall, hending]
  · exact h.elim

theorem writtenAs_toJson (t : TypeTable) : WrittenAs t (toJson t).toData := by
  refine ⟨by simp, t.entries, .refl _, ?_⟩
  rw [Json.membersToData_eq, List.map_map, List.forall₂_map_right_iff]
  refine List.forall₂_same.2 fun e _ => ?_
  exact ⟨Json.raw_memberKey_toString e.1.toNat, Json.isText_toData e.2⟩

end TypeTable

/-! ## Dumps -/

namespace UnitFile

def slots (f : UnitFile) : List Slot :=
  [⟨"unit", f.unit.WrittenAs, False⟩, ⟨"package", f.package.WrittenAs, f.package = {}⟩,
    ⟨"types", TypeTable.WrittenAs f.types, f.types = ∅⟩,
    ⟨"sizes", f.sizes.WrittenAs, f.sizes = {}⟩]

/-- A tree is a dump. In each of its records the fields stand in any order, those that hold their
default may be left out, and there may be others; the entries of the type table stand in any
order. -/
def WrittenAs (f : UnitFile) : Data → Prop := IsRecord f.slots

/-- What has been read when some of the fields have been. -/
def draft (f : UnitFile) (seen : List String) : Draft where
  unit := if "unit" ∈ seen then some f.unit else none
  package := if "package" ∈ seen then f.package else {}
  types := if "types" ∈ seen then f.types else ∅
  sizes := if "sizes" ∈ seen then f.sizes else {}

theorem takes (f : UnitFile) : shape.Takes f.slots f.draft := by
  simp only [Shape.Takes, slots, List.forall_mem_cons]
  refine ⟨fun d hd seen => ?_, fun d hd seen => ?_, fun d hd seen => ?_, fun d hd seen => ?_,
    fun _ h => absurd h List.not_mem_nil⟩
  · simp [shape, draft, SourceUnit.ofData_of_writtenAs hd]
  · simp [shape, draft, Package.ofData_of_writtenAs hd]
  · simp [shape, draft, TypeTable.ofData_of_writtenAs hd]
  · simp [shape, draft, Sizes.ofData_of_writtenAs hd]

theorem ofData_of_writtenAs {f : UnitFile} {d : Data} (h : f.WrittenAs d) : ofData d = .ok f := by
  refine Shape.decode_of_isRecord rfl rfl f.takes (fun seen hseen missing => ?_) h
  simp only [slots, List.forall_mem_cons, or_false] at hseen
  obtain ⟨hunit, hpackage, htypes, hsizes, -⟩ := hseen
  simp only [draft, hunit, if_true, ite_eq_of_or hpackage, ite_eq_of_or htypes,
    ite_eq_of_or hsizes]
  rfl

theorem writtenAs_toJson (f : UnitFile) : f.WrittenAs f.toJson.toData := by
  refine Json.isRecord_toData ?_
  simp [slots, Slot.In, Json.valuesOf_membersToData, f.unit.writtenAs_toJson,
    f.package.writtenAs_toJson, TypeTable.writtenAs_toJson, f.sizes.writtenAs_toJson]

/-- **A dump is read back**, however it is written: in its declared shape in any layout, both
printed forms included, and without fields that hold their default, in another order and with
further fields. -/
theorem parse_of_writtenAs (f : UnitFile) :
    parse f.toJson.toLine = .ok f ∧ parse f.toJson.toLines = .ok f ∧
    (∀ text, Json.Writes text f.toJson → parse text = .ok f) ∧
    ∀ text d, Json.read text = (d, true) → f.WrittenAs d → parse text = .ok f := by
  have hparse (text : String) (d : Data) (hread : Json.read text = (d, true))
      (hd : f.WrittenAs d) : parse text = .ok f := by
    unfold parse Json.decode
    rw [hread]
    simp [ofData_of_writtenAs hd]
  have hwrites (text : String) (h : Json.Writes text f.toJson) : parse text = .ok f :=
    hparse text _ (Json.read_of_writes h) f.writtenAs_toJson
  refine ⟨hwrites _ (Json.writes_toLine f.toJson), hwrites _ (Json.writes_toLines f.toJson),
    hwrites, hparse⟩

def sampleNode : Node := ⟨3, "call", {}, "f(\"\\x\")\n"⟩

def sample : UnitFile where
  unit := { path := "a.go", nodes := #[sampleNode] }
  types := SortedMap.ofList [(3, "int"), (12, "error")]

def rearrangedNode : Json :=
  .obj [("text", .str sampleNode.text), ("kind", .str "call"), ("depth", .num 1), ("id", .num 3)]

def rearrangedUnit : Json := .obj [("nodes", .arr [rearrangedNode]), ("path", .str "a.go")]

def rearrangedTypes : Json := .obj [("12", .str "error"), ("3", .str "int")]

/-- The sample without its defaults, with the fields in another order and two more of them. -/
def rearranged : Json :=
  .obj [("types", rearrangedTypes), ("version", .null), ("unit", rearrangedUnit)]

theorem writtenAs_rearranged : sample.WrittenAs rearranged.toData := by
  have hid : (Json.num 3).toData.IsNumber 3 := Json.isNumber_toData (by decide)
  have hnode : sampleNode.WrittenAs rearrangedNode.toData := by
    refine Json.isRecord_toData ?_
    simp [Node.slots, Slot.In, Json.valuesOf_membersToData, Json.isText_toData, sampleNode, hid]
  have hnodes : (Json.arr [rearrangedNode]).toData.IsList Node.WrittenAs [sampleNode] :=
    ⟨by simp, .cons hnode .nil⟩
  have hunit : sample.unit.WrittenAs rearrangedUnit.toData := by
    refine Json.isRecord_toData ?_
    simp [SourceUnit.slots, Slot.In, Json.valuesOf_membersToData, Json.isText_toData, sample,
      hnodes]
  have htypes : TypeTable.WrittenAs sample.types rearrangedTypes.toData := by
    refine ⟨by simp, [(12, "error"), (3, "int")], by decide, ?_⟩
    exact .cons ⟨Json.raw_memberKey_toString 12, Json.isText_toData "error"⟩
      (.cons ⟨Json.raw_memberKey_toString 3, Json.isText_toData "int"⟩ .nil)
  have hpackage : sample.package = {} := rfl
  have hsizes : sample.sizes = {} := rfl
  refine Json.isRecord_toData ?_
  simp [slots, Slot.In, Json.valuesOf_membersToData, hunit, htypes, hpackage, hsizes]

/-- A dump is read back from the text of `rearranged`. -/
theorem parse_of_writtenAs_sample :
    Json.Writes sample.toJson.toLines sample.toJson ∧ parse sample.toJson.toLines = .ok sample ∧
    Json.read rearranged.toLine = (rearranged.toData, true) ∧
    sample.WrittenAs rearranged.toData ∧ parse rearranged.toLine = .ok sample := by
  obtain ⟨-, -, hwrites, hread⟩ := parse_of_writtenAs sample
  have htext := Json.writes_toLines sample.toJson
  have hrearranged := Json.read_of_writes (Json.writes_toLine rearranged)
  exact ⟨htext, hwrites _ htext, hrearranged, writtenAs_rearranged,
    hread _ _ hrearranged writtenAs_rearranged⟩

end UnitFile

end Rulebook
