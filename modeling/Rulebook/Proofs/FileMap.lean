import Rulebook.Proofs.StoredFiles
import Mathlib.Data.List.Induction

/-!
# Files in memory are a map

After any edits, files in memory are a map from names to bytes.

**Theorem (`edited_map`).** What is at a path depends on the names that the path leads to, whatever
its spelling: a file with the bytes that were last added there, if they were not removed since; or
else a directory, if a file lies below; or else nothing. Whether something is there, what it is, and
what it holds are three questions with one answer.

The names that a path leads to are found by following it together with the path of the root, from
the top (`key_edited`). What a file holds after one edit more is settled by the names that the edit
leads to (`held_concat`), and the rest is an induction on the edits from the last
(`content?_edited`).
-/

namespace Rulebook.MemoryFiles

/-! ## Names -/

/-- The names that a path leads to: what stands between its slashes is followed from the top, behind
the path of the root unless the path is absolute. -/
def namesOf (root path : String) : List String :=
  (Path.segments (if Path.isAbsolute path then path else root ++ "/" ++ path)).foldl Path.walk []

theorem segments_join (a b : String) :
    Path.segments (a ++ "/" ++ b) = Path.segments a ++ Path.segments b := by
  unfold Path.segments
  rw [String.toList_append, String.toList_append, List.append_assoc]
  change (Text.split '/' (a.toList ++ '/' :: b.toList)).map String.ofList = _
  rw [Text.split_append_separator, List.map_append]

theorem root_edit (m : MemoryFiles) (e : Edit) : (m.edit e).root = m.root := by
  cases e <;> rfl

theorem root_edited (root : String) (edits : List Edit) :
    (edited root edits).root = (empty root).root := by
  have hfold (m : MemoryFiles) : (edits.foldl MemoryFiles.edit m).root = m.root := by
    induction edits generalizing m with
    | nil => rfl
    | cons e edits ih => rw [List.foldl_cons, ih, root_edit]
  exact hfold (empty root)

/-- A root is followed from the top, and a relative path from there. -/
theorem key_edited (root : String) (edits : List Edit) (path : String) :
    (edited root edits).key path = namesOf root path := by
  unfold key namesOf
  rw [root_edited, Path.resolve_eq_foldl]
  split
  · rfl
  · rw [segments_join, List.foldl_append]
    unfold empty
    rw [Path.resolve_eq_foldl, ite_self]

/-! ## What is held -/

namespace Edit

def path : Edit → String
  | add path _ => path
  | remove path => path

/-- What an edit leaves at its path. -/
def content? : Edit → Option ByteArray
  | add _ content => some content
  | remove _ => none

end Edit

/-- What is held under names after edits: what the last edit of that file has left. -/
def held (root : String) (edits : List Edit) (names : List String) : Option ByteArray :=
  (edits.reverse.find? fun e => namesOf root e.path = names).bind Edit.content?

theorem held_concat (root : String) (edits : List Edit) (e : Edit) (names : List String) :
    held root (edits ++ [e]) names =
      if namesOf root e.path = names then e.content? else held root edits names := by
  unfold held
  rw [List.reverse_concat, List.find?_cons]
  by_cases h : namesOf root e.path = names <;> simp [h]

theorem edited_concat (root : String) (edits : List Edit) (e : Edit) :
    edited root (edits ++ [e]) = (edited root edits).edit e := by
  unfold edited
  rw [List.foldl_append, List.foldl_cons, List.foldl_nil]

theorem content?_edit (m : MemoryFiles) (e : Edit) (names : List String) :
    (m.edit e).content? names = if m.key e.path = names then e.content? else m.content? names := by
  cases e with
  | add path content => exact content?_add m path content names
  | remove path => exact SortedMap.find?_erase m.files (m.key path) names

/-- **The last edit counts.** -/
theorem content?_edited (root : String) (edits : List Edit) (names : List String) :
    (edited root edits).content? names = held root edits names := by
  induction edits using List.reverseRecOn with
  | nil => rfl
  | append_singleton edits e ih =>
    rw [edited_concat, content?_edit, key_edited, held_concat, ih]

/-! ## What is there -/

/-- Some other file lies below the names. -/
def HasBelow (root : String) (edits : List Edit) (names : List String) : Prop :=
  ∃ k, (held root edits k).isSome = true ∧ names <+: k ∧ names ≠ k

theorem isDir_edited_iff {root : String} {edits : List Edit} {names : List String} :
    (edited root edits).isDir names = true ↔ HasBelow root edits names := by
  unfold isDir HasBelow
  simp only [List.any_eq_true, Bool.and_eq_true, decide_eq_true_eq, List.isPrefixOf_iff_prefix,
    ← SortedMap.isSome_find?_iff]
  refine exists_congr fun k => ?_
  rw [← content?_edited root edits k, and_comm (a := k ≠ names), ne_comm (a := names)]
  exact Iff.rfl

/-- A path is there when it is anything at all. -/
theorem isThere_eq (m : MemoryFiles) (path : String) :
    m.isThere path = (m.metadata path).isThere := by
  cases hcontent : m.content? (m.key path) with
  | some bytes => simp [isThere, metadata, hcontent, Metadata.file]
  | none =>
    cases hdir : m.isDir (m.key path) <;>
      simp [isThere, metadata, hcontent, hdir, Metadata.missing, Metadata.directory]

theorem read_eq_ok_iff_of_content? {m : MemoryFiles} {path text : String} {bytes : ByteArray}
    (h : m.content? (m.key path) = some bytes) :
    m.read path = .ok text ↔ text.toUTF8 = bytes := by
  rw [← Text.decodeUtf8_eq_ok_iff]
  refine read_eq_ok_iff.trans ⟨?_, fun htext => ⟨bytes, h, htext⟩⟩
  rintro ⟨bytes', hbytes', htext⟩
  cases h.symm.trans hbytes'
  exact htext

theorem exists_read_eq_error {m : MemoryFiles} {path : String} {bytes : ByteArray}
    (h : m.content? (m.key path) = some bytes) (hbytes : ∀ text : String, text.toUTF8 ≠ bytes) :
    ∃ message, m.read path = .error ⟨.invalidData, message⟩ := by
  cases hread : Text.decodeUtf8 bytes with
  | ok text => exact absurd (Text.decodeUtf8_eq_ok_iff.1 hread) (hbytes text)
  | error fault => exact ⟨fault.message, by simp only [read, h, hread]⟩

theorem metadata_of_content?_eq_none {m : MemoryFiles} {path : String}
    (h : m.content? (m.key path) = none) :
    m.metadata path = if m.isDir (m.key path) then .directory else .missing := by
  simp only [metadata, h]

theorem read_of_content?_eq_none {m : MemoryFiles} {path : String}
    (h : m.content? (m.key path) = none) :
    m.read path = .error (if m.isDir (m.key path) then ⟨.invalidInput, "Is a directory: " ++ path⟩
      else ⟨.notFound, "File not found: " ++ path⟩) := by
  simp only [read, h]
  split <;> rfl

/-- What is said of a path depends on the bytes there, and where there are none, on whether some
file lies below. -/
theorem operations_congr {m m' : MemoryFiles} {path : String} (hkey : m'.key path = m.key path)
    (hcontent : m'.content? (m.key path) = m.content? (m.key path))
    (hdir : m.content? (m.key path) = none → m'.isDir (m.key path) = m.isDir (m.key path)) :
    m'.metadata path = m.metadata path ∧ m'.read path = m.read path ∧
      m'.isThere path = m.isThere path := by
  cases h : m.content? (m.key path) with
  | some bytes =>
    rw [h] at hcontent
    simp only [metadata, read, isThere, hkey, hcontent, h, Option.isSome_some, Bool.true_or,
      true_and]
  | none =>
    rw [h] at hcontent
    simp only [metadata, read, isThere, hkey, hcontent, h, hdir h, and_self]

/-- What is no directory stays so when a file is removed. -/
theorem isDir_remove {m : MemoryFiles} {path : String} {names : List String}
    (h : m.isDir names = false) : (m.remove path).isDir names = false := by
  unfold isDir at h ⊢
  rw [List.any_eq_false] at h ⊢
  exact fun k hk => h k (SortedMap.mem_keys_of_mem_keys_erase hk)

/-- **Removing a file leaves all else as it was,** but for directories on the way to it. -/
theorem remove_other {m : MemoryFiles} {path other : String} (hother : m.key other ≠ m.key path)
    (hdir : m.metadata other ≠ .directory) :
    (m.remove path).metadata other = m.metadata other ∧
      (m.remove path).read other = m.read other ∧
      (m.remove path).isThere other = m.isThere other := by
  refine operations_congr rfl ?_ fun hnone => ?_
  · exact (content?_edit m (.remove path) (m.key other)).trans (if_neg (Ne.symm hother))
  · have hfalse : m.isDir (m.key other) = false := by
      refine Bool.eq_false_iff.2 fun htrue => hdir ?_
      simp only [metadata, hnone, htrue, if_true]
    rw [hfalse]
    exact isDir_remove hfalse

/-- **Files in memory are a map.** After any edits under any root, let a path lead to certain names.
If the last edit of the file with these names added it, the path is a file of that many bytes, and
reading it gives the text that the bytes encode, or fails if they encode none. Otherwise the path is
a directory if some other file lies below, and else nothing, and reading fails accordingly. A path
is there when it is anything. Removing it tells whether it was a file, and no other file changes;
nor does anything else that is said of a path with other names, unless it was a directory. -/
theorem edited_map (root : String) (edits : List Edit) (path : String) :
    let fs := (edited root edits).toFileSystem
    let names := namesOf root path
    (match held root edits names with
      | some bytes =>
        fs.metadata path = .ok (.file bytes.size) ∧
        (∀ text, fs.read path = .ok text ↔ text.toUTF8 = bytes) ∧
        ((∀ text : String, text.toUTF8 ≠ bytes) →
          ∃ message, fs.read path = .error ⟨.invalidData, message⟩)
      | none =>
        (HasBelow root edits names → fs.metadata path = .ok .directory ∧
          ∃ message, fs.read path = .error ⟨.invalidInput, message⟩) ∧
        (¬ HasBelow root edits names → fs.metadata path = .ok .missing ∧
          ∃ message, fs.read path = .error ⟨.notFound, message⟩)) ∧
    (fs.metadata path).map Metadata.isThere = fs.isThere path ∧
    let removed := (edited root edits).removeFile path
    let fs' := removed.2.toFileSystem
    removed.1 = (held root edits names).isSome ∧
    removed.2 = edited root (edits ++ [.remove path]) ∧
    held root (edits ++ [.remove path]) names = none ∧
    ∀ other, namesOf root other ≠ names →
      held root (edits ++ [.remove path]) (namesOf root other) =
        held root edits (namesOf root other) ∧
      (fs.metadata other ≠ .ok .directory → fs'.metadata other = fs.metadata other ∧
        fs'.read other = fs.read other ∧ fs'.isThere other = fs.isThere other) := by
  intro fs names
  let m := edited root edits
  have hkey : m.key path = names := key_edited root edits path
  have hcontent : m.content? (m.key path) = held root edits names := by
    rw [hkey]
    exact content?_edited root edits names
  have hdir : m.isDir (m.key path) = true ↔ HasBelow root edits names := by
    rw [hkey]
    exact isDir_edited_iff
  refine ⟨?_, congrArg Except.ok (isThere_eq m path).symm, congrArg Option.isSome hcontent,
    (edited_concat root edits (.remove path)).symm, ?_,
    fun other hother => ⟨?_, fun hdirectory => ?_⟩⟩
  · cases hheld : held root edits names with
    | some bytes =>
      rw [hheld] at hcontent
      exact ⟨congrArg Except.ok (m.metadata_of_content? hcontent),
        fun text => read_eq_ok_iff_of_content? hcontent, exists_read_eq_error hcontent⟩
    | none =>
      rw [hheld] at hcontent
      have hmetadata := metadata_of_content?_eq_none hcontent
      have hread := read_of_content?_eq_none hcontent
      refine ⟨fun hbelow => ?_, fun hbelow => ?_⟩
      · rw [if_pos (hdir.2 hbelow)] at hmetadata hread
        exact ⟨congrArg Except.ok hmetadata, _, hread⟩
      · rw [if_neg (mt hdir.1 hbelow)] at hmetadata hread
        exact ⟨congrArg Except.ok hmetadata, _, hread⟩
  · rw [held_concat]
    exact if_pos rfl
  · rw [held_concat]
    exact if_neg (Ne.symm hother)
  · have hkeys : m.key other ≠ m.key path := by
      rw [hkey]
      exact fun h => hother ((key_edited root edits other).symm.trans h)
    obtain ⟨hmetadata, hread, hthere⟩ :=
      remove_other hkeys fun h => hdirectory (congrArg Except.ok h)
    exact ⟨congrArg Except.ok hmetadata, hread, congrArg Except.ok hthere⟩

end Rulebook.MemoryFiles
