import Rulebook.Files.Memory
import Rulebook.Proofs.Failures
import Rulebook.Proofs.Names

/-!
# Files in memory as they come about

Files in memory come about by edits: under a root without files, files are added and removed. All
names that are ever stored are names proper (`named_edited`), so that each path which a pattern
matches leads back to the file that it was made from (`key_mem_of_glob`).

What a pattern matches depends on the names alone (`glob_congr`). Emptying files that are there
keeps the names, and so it changes what some files hold and nothing else (`keys_emptied`,
`content?_emptied`).
-/

namespace Rulebook.MemoryFiles

/-- What is done to files in memory. -/
inductive Edit where
  | add (path : String) (content : ByteArray)
  | remove (path : String)

def edit (m : MemoryFiles) : Edit → MemoryFiles
  | .add path content => m.add path content
  | .remove path => m.remove path

/-- The files under a root after edits. -/
def edited (root : String) (edits : List Edit) : MemoryFiles := edits.foldl edit (empty root)

/-! ## Names -/

/-- Root and files are given by names proper. -/
structure Named (m : MemoryFiles) : Prop where
  root : ∀ n ∈ m.root, Path.IsName n
  keys : ∀ k ∈ m.files.keys, ∀ n ∈ k, Path.IsName n

theorem Named.isName_key {m : MemoryFiles} (h : m.Named) (path : String) :
    ∀ n ∈ m.key path, Path.IsName n :=
  Path.isName_resolve h.root path

theorem named_empty (root : String) : (empty root).Named where
  root := Path.isName_resolve (fun _ hn => absurd hn List.not_mem_nil) root
  keys _ hk := absurd hk List.not_mem_nil

theorem Named.edit {m : MemoryFiles} (h : m.Named) (e : Edit) : (m.edit e).Named := by
  cases e with
  | add path content =>
    refine ⟨h.root, fun k hk => ?_⟩
    rcases SortedMap.mem_keys_insert.1 hk with rfl | hk
    · exact h.isName_key path
    · exact h.keys k hk
  | remove path => exact ⟨h.root, fun k hk => h.keys k (SortedMap.mem_keys_of_mem_keys_erase hk)⟩

theorem named_edited (root : String) (edits : List Edit) : (edited root edits).Named := by
  have hfold (m : MemoryFiles) (h : m.Named) : (edits.foldl MemoryFiles.edit m).Named := by
    induction edits generalizing m with
    | nil => exact h
    | cons e edits ih => exact ih _ (h.edit e)
  exact hfold _ (named_empty root)

/-! ## Patterns -/

theorem Named.key_ofNames {m : MemoryFiles} (h : m.Named) {k : List String}
    (hk : k ∈ m.files.keys) : m.key (Path.ofNames k) = k :=
  Path.resolve_ofNames (h.keys k hk) m.root

/-- The relative path of a file leads to it from the root. -/
theorem Named.key_belowRoot {m : MemoryFiles} (h : m.Named) {k : List String}
    (hk : k ∈ m.files.keys) : m.key (m.belowRoot k) = k := by
  unfold belowRoot
  split
  · next hprefix =>
    obtain ⟨rest, rfl⟩ := List.isPrefixOf_iff_prefix.1 hprefix
    rw [List.drop_left]
    exact Path.resolve_relative (fun n hn => h.keys _ hk n (List.mem_append_right _ hn)) m.root
  · exact h.key_ofNames hk

/-- What a pattern matches, if it is well formed, are the paths of some of the files. -/
theorem glob_eq_ok {m : MemoryFiles} {pattern : String} {paths : List String}
    (h : m.glob pattern = .ok paths) : ∃ parts,
      Glob.Stored.parse (m.fullPattern pattern) = .ok parts ∧
      paths = (m.files.keys.filter fun k => Glob.Stored.isMatch parts (Path.ofNames k)).map
        fun k => if Path.isAbsolute pattern then Path.ofNames k else m.belowRoot k := by
  obtain ⟨_, -, h⟩ := bind_eq_ok_iff.1 h
  obtain ⟨parts, hparts, h⟩ := bind_eq_ok_iff.1 h
  cases h
  exact ⟨parts, mapError_eq_ok_iff.1 hparts, rfl⟩

/-- **A match leads to a file.** -/
theorem Named.key_mem_of_glob {m : MemoryFiles} (h : m.Named) {pattern path : String}
    {paths : List String} (hglob : m.glob pattern = .ok paths) (hpath : path ∈ paths) :
    m.key path ∈ m.files.keys := by
  obtain ⟨parts, -, rfl⟩ := glob_eq_ok hglob
  obtain ⟨k, hk, rfl⟩ := List.mem_map.1 hpath
  have hk := (List.mem_filter.1 hk).1
  split
  · rw [h.key_ofNames hk]
    exact hk
  · rw [h.key_belowRoot hk]
    exact hk

/-- What patterns match depends on the root and on the names of the files. -/
theorem glob_congr {m m' : MemoryFiles} (hroot : m.root = m'.root)
    (hkeys : m.files.keys = m'.files.keys) : m.glob = m'.glob := by
  funext pattern
  simp only [glob, fullPattern, rootPath, belowRoot, hroot, hkeys]

/-! ## Reading -/

theorem metadata_of_content? (m : MemoryFiles) {path : String} {bytes : ByteArray}
    (h : m.content? (m.key path) = some bytes) : m.metadata path = .file bytes.size := by
  simp only [metadata, h]

theorem read_eq_ok_iff {m : MemoryFiles} {path text : String} :
    m.read path = .ok text ↔
      ∃ bytes, m.content? (m.key path) = some bytes ∧ Text.decodeUtf8 bytes = .ok text := by
  cases hcontent : m.content? (m.key path) with
  | none =>
    simp only [read, hcontent]
    split <;> simp
  | some bytes =>
    simp only [read, hcontent]
    cases htext : Text.decodeUtf8 bytes <;> simp [htext]

/-! ## Emptying files -/

/-- Puts the empty text in the place of what some files hold. -/
def emptied (m : MemoryFiles) (paths : List String) : MemoryFiles :=
  paths.foldl (fun m path => m.add path "".toUTF8) m

theorem root_emptied (m : MemoryFiles) (paths : List String) : (m.emptied paths).root = m.root := by
  induction paths generalizing m with
  | nil => rfl
  | cons path paths ih => exact ih (m.add path "".toUTF8)

theorem key_emptied (m : MemoryFiles) (paths : List String) : (m.emptied paths).key = m.key := by
  funext path
  simp only [key, root_emptied]

/-- Emptying files that are there keeps the names of all files. -/
theorem keys_emptied {m : MemoryFiles} {paths : List String}
    (h : ∀ path ∈ paths, m.key path ∈ m.files.keys) :
    (m.emptied paths).files.keys = m.files.keys := by
  induction paths generalizing m with
  | nil => rfl
  | cons path paths ih =>
    have hkeys : (m.add path "".toUTF8).files.keys = m.files.keys :=
      SortedMap.keys_insert_of_mem _ (h path (List.mem_cons_self ..))
    have hrest : ∀ p ∈ paths, (m.add path "".toUTF8).key p ∈ (m.add path "".toUTF8).files.keys := by
      intro p hp
      rw [hkeys]
      exact h p (List.mem_cons_of_mem path hp)
    exact (ih hrest).trans hkeys

theorem content?_add (m : MemoryFiles) (path : String) (content : ByteArray) (k : List String) :
    (m.add path content).content? k = if m.key path = k then some content else m.content? k :=
  SortedMap.find?_insert m.files (m.key path) content k

/-- A file holds the empty text if it was emptied under any of its names, and otherwise what it
held. -/
theorem content?_emptied (m : MemoryFiles) (paths : List String) (k : List String) :
    (m.emptied paths).content? k =
      if k ∈ paths.map m.key then some "".toUTF8 else m.content? k := by
  induction paths generalizing m with
  | nil => rfl
  | cons path paths ih =>
    have hkey : (m.add path "".toUTF8).key = m.key := rfl
    have hstep : (m.emptied (path :: paths)).content? k = _ := ih (m.add path "".toUTF8)
    rw [hstep, hkey, content?_add, List.map_cons]
    by_cases hrest : k ∈ paths.map m.key
    · rw [if_pos hrest, if_pos (List.mem_cons_of_mem _ hrest)]
    · rw [if_neg hrest]
      simp only [List.mem_cons, hrest, or_false, eq_comm]

end Rulebook.MemoryFiles
