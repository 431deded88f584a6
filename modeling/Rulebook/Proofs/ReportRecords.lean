import Rulebook.Check.Report
import Rulebook.Proofs.Dumps

/-!
# Reports are read back

The report for programs is a JSON array with a record for each diagnostic.

**Theorem (`CheckOutcome.toJsonText_tells`).** The report is an array of records, one for each
diagnostic and in their order, and each record is read back as its diagnostic, with the path of the
dump and the position. So two reports are the same text just when they tell the same.

What a report tells is the list of its entries (`CheckOutcome.entries`). A record is written with
the optional fields that there are, and it is read by a decoder for such records
(`ReportEntry.ofData`), which takes a field that is not there for one without a value. That no two
of the fields have the same name is part of reading them back.
-/

namespace Rulebook

open Decoder Data

/-! ## Entries -/

/-- A diagnostic with its position, and the dump it is about. -/
abbrev ReportEntry := ByteArray × ReportedDiagnostic

/-- All that a report tells, in order. -/
def CheckOutcome.entries (o : CheckOutcome) : List ReportEntry :=
  o.units.flatMap fun u => u.diagnostics.map (u.dump, ·)

/-- The path of the dump is text, and the position is given in numbers of 64 bits. -/
structure ReportEntry.Printable (e : ReportEntry) : Prop where
  dump : ∃ path, Text.decodeUtf8 e.1 = .ok path
  position : ∀ p ∈ e.2.position, p.line < UInt64.size ∧ p.column < UInt64.size

/-! ## Reading entries -/

/-- What has been read of a position. -/
structure Position.Draft where
  line : Option Nat := none
  column : Option Nat := none

def Position.shape : Shape Position.Draft where
  name := "Position"
  fields := ["line", "column"]
  strict := false
  set draft name value :=
    match name with
    | "line" => return { draft with line := some (← natural UInt64.size "u64" value) }
    | _ => return { draft with column := some (← natural UInt64.size "u64" value) }

def Position.ofData : Decoder Position :=
  Position.shape.decode {} fun draft missing => do
    return ⟨← require draft.line "line" missing, ← require draft.column "column" missing⟩

def DiagnosticKind.ofData : Decoder DiagnosticKind
  | .scalar _ (.text "finding") => .ok .finding
  | .scalar _ (.text "warning") => .ok .warning
  | d => .error (d.unexpected "a kind of diagnostic")

/-- What has been read of an entry. -/
structure ReportEntry.Draft where
  dump : Option String := none
  path : Option String := none
  kind : Option DiagnosticKind := none
  node : Option NodeId := none
  span : Option Span := none
  message : Option String := none
  position : Option Position := none

def ReportEntry.shape : Shape ReportEntry.Draft where
  name := "JsonDiagnostic"
  fields := ["dump", "path", "kind", "node", "span", "message", "position"]
  strict := false
  set draft name value :=
    match name with
    | "dump" => return { draft with dump := some (← Decoder.string value) }
    | "path" => return { draft with path := some (← Decoder.string value) }
    | "kind" => return { draft with kind := some (← DiagnosticKind.ofData value) }
    | "node" => return { draft with node := some (← u32 value) }
    | "span" => return { draft with span := some (← Span.ofData value) }
    | "message" => return { draft with message := some (← Decoder.string value) }
    | _ => return { draft with position := some (← Position.ofData value) }

/-- Reads an entry. The node, the span and the position need not be there. -/
def ReportEntry.ofData : Decoder ReportEntry :=
  ReportEntry.shape.decode {} fun draft missing => do
    let dump ← require draft.dump "dump" missing
    let path ← require draft.path "path" missing
    let kind ← require draft.kind "kind" missing
    let message ← require draft.message "message" missing
    return (dump.toUTF8, ⟨⟨path, kind, draft.node, draft.span, message⟩, draft.position⟩)

/-! ## What stands in a record -/

namespace Position

def slots (p : Position) : List Slot :=
  [⟨"line", IsNumber p.line, False⟩, ⟨"column", IsNumber p.column, False⟩]

/-- What has been read when some of the fields have been. -/
def draft (p : Position) (seen : List String) : Draft where
  line := if "line" ∈ seen then some p.line else none
  column := if "column" ∈ seen then some p.column else none

variable {p : Position} (h : p.line < UInt64.size ∧ p.column < UInt64.size)
include h

theorem takes : shape.Takes p.slots p.draft := by
  simp only [Shape.Takes, slots, List.forall_mem_cons]
  refine ⟨fun d hd seen => ?_, fun d hd seen => ?_, fun _ h => absurd h List.not_mem_nil⟩
  · simp [shape, draft, natural_of_isNumber hd h.1]
  · simp [shape, draft, natural_of_isNumber hd h.2]

theorem ofData_of_isRecord {d : Data} (hd : d.IsRecord p.slots) : ofData d = .ok p := by
  refine Shape.decode_of_isRecord rfl rfl (takes h) (fun seen hseen missing => ?_) hd
  simp only [slots, List.forall_mem_cons, or_false] at hseen
  obtain ⟨hline, hcolumn, -⟩ := hseen
  simp only [draft, hline, hcolumn, if_true]
  rfl

theorem isRecord_toJson : p.toJson.toData.IsRecord p.slots := by
  have hline := Json.isNumber_toData h.1
  have hcolumn := Json.isNumber_toData h.2
  refine Json.isRecord_toData ?_
  simp [slots, Slot.In, Json.valuesOf_membersToData, hline, hcolumn]

end Position

theorem DiagnosticKind.ofData_of_isText {kind : DiagnosticKind} {d : Data}
    (h : d.IsText kind.name) : ofData d = .ok kind := by
  unfold IsText at h
  split at h
  · subst h
    cases kind <;> rfl
  · exact h.elim

namespace ReportEntry

/-- The fields of a diagnostic about a dump. Those without a value are left out. -/
def slots (dump : String) (d : ReportedDiagnostic) : List Slot :=
  [⟨"dump", IsText dump, False⟩, ⟨"path", IsText d.diagnostic.path, False⟩,
    ⟨"kind", IsText d.diagnostic.kind.name, False⟩,
    ⟨"node", fun v => ∃ n : NodeId, d.diagnostic.node = some n ∧ v.IsNumber n.toNat,
      d.diagnostic.node = none⟩,
    ⟨"span", fun v => ∃ s, d.diagnostic.span = some s ∧ s.WrittenAs v, d.diagnostic.span = none⟩,
    ⟨"message", IsText d.diagnostic.message, False⟩,
    ⟨"position", fun v => ∃ p, d.position = some p ∧ v.IsRecord p.slots, d.position = none⟩]

/-- What has been read when some of the fields have been. -/
def draft (dump : String) (d : ReportedDiagnostic) (seen : List String) : Draft where
  dump := if "dump" ∈ seen then some dump else none
  path := if "path" ∈ seen then some d.diagnostic.path else none
  kind := if "kind" ∈ seen then some d.diagnostic.kind else none
  node := if "node" ∈ seen then d.diagnostic.node else none
  span := if "span" ∈ seen then d.diagnostic.span else none
  message := if "message" ∈ seen then some d.diagnostic.message else none
  position := if "position" ∈ seen then d.position else none

variable {dump : String} {d : ReportedDiagnostic}
  (h : ∀ p ∈ d.position, p.line < UInt64.size ∧ p.column < UInt64.size)
include h

theorem takes : shape.Takes (slots dump d) (draft dump d) := by
  simp only [Shape.Takes, slots, List.forall_mem_cons]
  refine ⟨fun v hv seen => ?dump, fun v hv seen => ?path, fun v hv seen => ?kind,
    fun v hv seen => ?node, fun v hv seen => ?span, fun v hv seen => ?message,
    fun v hv seen => ?position, fun _ h => absurd h List.not_mem_nil⟩
  case dump => simp [shape, draft, string_of_isText hv]
  case path => simp [shape, draft, string_of_isText hv]
  case kind => simp [shape, draft, DiagnosticKind.ofData_of_isText hv]
  case node =>
    obtain ⟨n, hn, hv⟩ := hv
    simp [shape, draft, u32_of_isNumber hv, hn]
  case span =>
    obtain ⟨s, hs, hv⟩ := hv
    simp [shape, draft, Span.ofData_of_writtenAs hv, hs]
  case message => simp [shape, draft, string_of_isText hv]
  case position =>
    obtain ⟨p, hp, hv⟩ := hv
    simp [shape, draft, Position.ofData_of_isRecord (h p hp) hv, hp]

theorem ofData_of_isRecord {v : Data} (hv : v.IsRecord (slots dump d)) :
    ofData v = .ok (dump.toUTF8, d) := by
  refine Shape.decode_of_isRecord rfl rfl (takes h) (fun seen hseen missing => ?_) hv
  simp only [slots, List.forall_mem_cons, or_false] at hseen
  obtain ⟨hdump, hpath, hkind, hnode, hspan, hmessage, hposition, -⟩ := hseen
  simp only [draft, hdump, hpath, hkind, hmessage, if_true, ite_eq_of_or hnode,
    ite_eq_of_or hspan, ite_eq_of_or hposition]
  rfl

theorem isRecord_toJson : (d.toJson dump).toData.IsRecord (slots dump d) := by
  obtain ⟨⟨path, kind, node, span, message⟩, position⟩ := d
  have hposition : ∀ p ∈ position, p.toJson.toData.IsRecord p.slots :=
    fun p hp => Position.isRecord_toJson (h p hp)
  refine Json.isRecord_toData ?_
  cases node <;> cases span <;> cases position <;>
    simp_all [slots, Slot.In, Json.valuesOf_membersToData, Json.isText_toData,
      Json.isNumber_toData_uint32, Span.writtenAs_toJson]

end ReportEntry

/-! ## Reports -/

namespace CheckOutcome

/-- The path of a dump as text. -/
def dumpText (dump : ByteArray) : String :=
  match Text.decodeUtf8 dump with
  | .ok path => path
  | .error _ => ""

/-- An entry as it is printed. -/
def entryJson (e : ReportEntry) : Json := e.2.toJson (dumpText e.1)

theorem decodeUtf8_of_printable {e : ReportEntry} (h : e.Printable) :
    Text.decodeUtf8 e.1 = .ok (dumpText e.1) := by
  obtain ⟨path, hpath⟩ := h.dump
  rw [dumpText, hpath]

theorem ofData_entryJson {e : ReportEntry} (h : e.Printable) :
    ReportEntry.ofData (entryJson e).toData = .ok e := by
  have hbytes := Text.decodeUtf8_eq_ok_iff.1 (decodeUtf8_of_printable h)
  have hrecord : (entryJson e).toData.IsRecord (ReportEntry.slots (dumpText e.1) e.2) :=
    ReportEntry.isRecord_toJson h.position
  have hread := ReportEntry.ofData_of_isRecord h.position hrecord
  rw [hbytes] at hread
  exact hread

/-- The report is the list of its entries, one after the other. -/
theorem toJsonText_eq {o : CheckOutcome} (h : ∀ e ∈ o.entries, e.Printable) :
    o.toJsonText = (Json.arr (o.entries.map entryJson)).toLines ++ "\n" := by
  have hunit : ∀ u ∈ o.units,
      unitJson u = .ok (u.diagnostics.map fun d => entryJson (u.dump, d)) := by
    intro u hu
    unfold unitJson
    refine mapM_of_forall₂ (List.forall₂_map_right_iff.2 (List.forall₂_same.2 fun d hd => ?_))
    have hmem : (u.dump, d) ∈ o.entries :=
      List.mem_flatMap.2 ⟨u, hu, List.mem_map_of_mem hd⟩
    rw [decodeUtf8_of_printable (h _ hmem)]
    rfl
  have hunits : o.units.mapM unitJson =
      .ok (o.units.map fun u => u.diagnostics.map fun d => entryJson (u.dump, d)) :=
    mapM_of_forall₂ (List.forall₂_map_right_iff.2 (List.forall₂_same.2 hunit))
  have hentries : (o.units.map fun u => u.diagnostics.map fun d => entryJson (u.dump, d)).flatten =
      o.entries.map entryJson := by
    simp [entries, List.flatMap_def, List.map_flatten, Function.comp_def]
  unfold toJsonText
  rw [hunits]
  simp only [hentries]

/-- The whole text is read as the list of the entries. -/
theorem read_toJsonText {o : CheckOutcome} (h : ∀ e ∈ o.entries, e.Printable) :
    Json.read o.toJsonText = ((Json.arr (o.entries.map entryJson)).toData, true) := by
  have hnewline : Json.Blank "\n".toList := by
    intro c hc
    rw [List.mem_singleton.1 hc]
    rfl
  rw [toJsonText_eq h]
  exact Json.read_of_writes ((Json.writes_toLines _).append hnewline)

theorem decode_toJsonText {o : CheckOutcome} (h : ∀ e ∈ o.entries, e.Printable) :
    Json.decode (list ReportEntry.ofData) o.toJsonText = .ok o.entries := by
  have hlist : (Json.arr (o.entries.map entryJson)).toData.IsList
      (fun e d => ReportEntry.ofData d = .ok e) o.entries :=
    Json.isList_toData fun e he => ofData_entryJson (h e he)
  unfold Json.decode
  rw [read_toJsonText h]
  simp [list_of_isList hlist fun _ _ hd => hd]

/-- **A report is read back.** It is one document and a line break. The document is a list with a
record for each diagnostic, in the order of the units and of the diagnostics in them, and the record
has the fields of the diagnostic. Two reports are one text just when they tell the same. -/
theorem toJsonText_tells {o : CheckOutcome} (h : ∀ e ∈ o.entries, e.Printable) :
    (∃ document items, o.toJsonText = document ++ "\n" ∧
      Json.read document = (.list Json.nowhere items .exact, true) ∧
      Json.read o.toJsonText = (.list Json.nowhere items .exact, true) ∧
      List.Forall₂ (fun e d => (∃ path, Text.decodeUtf8 e.1 = .ok path ∧
        d.IsRecord (ReportEntry.slots path e.2)) ∧ ReportEntry.ofData d = .ok e) o.entries items) ∧
    Json.decode (list ReportEntry.ofData) o.toJsonText = .ok o.entries ∧
    ∀ o' : CheckOutcome, (∀ e ∈ o'.entries, e.Printable) →
      (o.toJsonText = o'.toJsonText ↔ o.entries = o'.entries) := by
  refine ⟨?_, decode_toJsonText h, fun o' h' => ⟨fun htext => ?_, fun hentries => ?_⟩⟩
  · let records := Json.arr (o.entries.map entryJson)
    refine ⟨records.toLines, Json.itemsToData (o.entries.map entryJson), toJsonText_eq h,
      Json.read_of_writes (Json.writes_toLines records), read_toJsonText h, ?_⟩
    rw [Json.itemsToData_eq, List.map_map, List.forall₂_map_right_iff, List.forall₂_same]
    intro e he
    exact ⟨⟨_, decodeUtf8_of_printable (h e he), ReportEntry.isRecord_toJson (h e he).position⟩,
      ofData_entryJson (h e he)⟩
  · have hread := decode_toJsonText h
    rw [htext, decode_toJsonText h'] at hread
    exact (Except.ok.inj hread).symm
  · rw [toJsonText_eq h, toJsonText_eq h', hentries]

/-- A finding with everything that there can be, and a warning with what there has to be. -/
def sample : List ReportedDiagnostic :=
  [⟨⟨"a.go", .finding, some 3, some ⟨4, 9⟩, "say \"x\\y\"\t\x00😀"⟩, some ⟨1, 5⟩⟩,
    ⟨⟨"a.go", .warning, none, none, ""⟩, none⟩]

/-- The diagnostics of one unit, and the same spread over units with the same dump. -/
theorem toJsonText_tells_sample :
    let whole : CheckOutcome := ⟨[⟨"d.json".toUTF8, sample⟩]⟩
    let spread : CheckOutcome :=
      ⟨⟨"other.json".toUTF8, []⟩ :: sample.map fun d => ⟨"d.json".toUTF8, [d]⟩⟩
    (∀ e ∈ whole.entries, e.Printable) ∧ (∀ e ∈ spread.entries, e.Printable) ∧
    Json.decode (list ReportEntry.ofData) whole.toJsonText = .ok whole.entries ∧
    whole.toJsonText = spread.toJsonText := by
  intro whole spread
  have hsame : whole.entries = spread.entries := rfl
  have hdump : Text.decodeUtf8 "d.json".toUTF8 = .ok "d.json" :=
    Text.decodeUtf8_eq_ok_iff.2 rfl
  have hwhole : ∀ e ∈ whole.entries, e.Printable := by
    intro e he
    have hmem : e ∈ sample.map ("d.json".toUTF8, ·) := by simpa [whole, entries] using he
    obtain ⟨d, hd, rfl⟩ := List.mem_map.1 hmem
    have hposition : ∀ d ∈ sample, ∀ p ∈ d.position,
        p.line < UInt64.size ∧ p.column < UInt64.size := by decide
    exact ⟨⟨_, hdump⟩, hposition d hd⟩
  have hspread : ∀ e ∈ spread.entries, e.Printable := hsame ▸ hwhole
  obtain ⟨-, hdecode, hiff⟩ := toJsonText_tells hwhole
  exact ⟨hwhole, hspread, hdecode, (hiff spread hspread).2 hsame⟩

end CheckOutcome

end Rulebook
