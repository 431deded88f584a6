import Rulebook.Proofs.FoundFiles
import Mathlib.Data.List.Find

/-!
# The root is taken literally

A relative pattern is read behind the path of the root, and the root stands for itself there,
whatever characters its names are made of.

**Theorem (`glob_rooted`).** The same files below two roots without backslashes are found alike:
each relative pattern finds the same paths under both roots, or is refused for the same reason.

What a pattern finds below a root is told in names from there on (`Named.exists_glob_below`), so it
is a matter of which names lead to a file (`Named.glob_congr_below`). A backslash is the exception:
in the pattern it takes the next character, and the escaped root leaves it as it is
(`not_glob_rooted_backslash`).
-/

namespace Rulebook

namespace Path

/-- A path that leads down from where it is taken. -/
def IsBelow (path : String) : Prop :=
  isAbsolute path = false ∧ ".." ∉ segments path ∧ resolve [] path ≠ []

instance (path : String) : Decidable (IsBelow path) := inferInstanceAs (Decidable (_ ∧ _ ∧ _))

/-- Names lead down. -/
theorem isBelow_intercalate {names : List String} (h : ∀ n ∈ names, IsName n) (hne : names ≠ []) :
    IsBelow ("/".intercalate names) := by
  refine ⟨isAbsolute_intercalate h, ?_, ?_⟩
  · rw [segments_intercalate h, if_neg hne]
    exact fun hup => (h _ hup).ne_up rfl
  · rwa [resolve_relative h, List.nil_append]

theorem walk_append {s : String} (h : s ≠ "..") (dir names : List String) :
    walk (dir ++ names) s = dir ++ walk names s := by
  unfold walk
  rw [if_neg h, if_neg h, List.append_assoc]
  split
  · rfl
  · rfl

theorem foldl_walk_append {segs : List String} (h : ".." ∉ segs) (dir names : List String) :
    segs.foldl walk (dir ++ names) = dir ++ segs.foldl walk names := by
  induction segs generalizing names with
  | nil => rfl
  | cons s segs ih =>
    rw [List.mem_cons, not_or] at h
    rw [List.foldl_cons, walk_append (Ne.symm h.1), ih h.2, List.foldl_cons]

/-- A path that leads down leads to the same names from everywhere. -/
theorem IsBelow.resolve_eq {path : String} (h : IsBelow path) (dir : List String) :
    resolve dir path = dir ++ resolve [] path := by
  rw [resolve_eq_foldl, resolve_eq_foldl, h.1, if_neg Bool.false_ne_true,
    if_neg Bool.false_ne_true, ← foldl_walk_append h.2.1, List.append_nil]

end Path

namespace MemoryFiles

open Glob.Stored (readBelow Part slash)

/-- **What a relative pattern finds** are the files below the root whose names from there, behind a
slash, are what the pattern stands for behind a slash. -/
theorem Named.exists_glob_below {m : MemoryFiles} (h : m.Named)
    (hroot : '\\' ∉ Path.spelled m.root) {pattern : String}
    (hrel : Path.isAbsolute pattern = false) (hpattern : (Glob.Stored.parse pattern).isOk = true) :
    ∃ parts paths, readBelow pattern = .ok parts ∧ m.glob pattern = .ok paths ∧
      paths.Pairwise Path.Before ∧
      ∀ path, path ∈ paths ↔ ∃ names, path = "/".intercalate names ∧
        m.root ++ names ∈ m.files.keys ∧ (names = [] → m.root = []) ∧
        Part.ListCovers parts (slash :: Text.bytes path) := by
  obtain ⟨resolved, paths, -, hglob, hsorted, hpaths, hrelative⟩ :=
    h.exists_glob_eq_ok (fun _ => hroot) hpattern
  obtain ⟨parts, hparts, hmatches⟩ := hrelative hrel
  have hpath (names : List String) :
      m.pathFor pattern (m.root ++ names) = "/".intercalate names := by
    rw [pathFor, hrel, if_neg Bool.false_ne_true, belowRoot_append]
  refine ⟨parts, paths, hparts, hglob, hsorted, fun path => (hpaths path).trans ?_⟩
  constructor
  · rintro ⟨k, hk, hmatch, rfl⟩
    obtain ⟨names, rfl, hnil, hcovers⟩ := (hmatches k hk).1 hmatch
    rw [hpath]
    exact ⟨names, rfl, hk, hnil, hcovers⟩
  · rintro ⟨names, rfl, hk, hnil, hcovers⟩
    exact ⟨m.root ++ names, hk, (hmatches _ hk).2 ⟨names, rfl, hnil, hcovers⟩, hpath names⟩

theorem glob_eq_error {m : MemoryFiles} {pattern : String} {fault : Glob.Stored.Fault}
    (h : Glob.Stored.parse pattern = .error fault) :
    m.glob pattern = .error ⟨pattern, fault.message⟩ := by
  simp only [glob, h]
  rfl

/-- **Only the names below the root count,** unless the root is a file itself. -/
theorem Named.glob_congr_below {m m' : MemoryFiles} (h : m.Named) (h' : m'.Named)
    (hroot : '\\' ∉ Path.spelled m.root) (hroot' : '\\' ∉ Path.spelled m'.root)
    (hsame : ∀ names, m.root ++ names ∈ m.files.keys ↔ m'.root ++ names ∈ m'.files.keys)
    (hfile : m.root ∉ m.files.keys) {pattern : String} (hrel : Path.isAbsolute pattern = false) :
    m.glob pattern = m'.glob pattern := by
  cases hparse : Glob.Stored.parse pattern with
  | error fault => rw [glob_eq_error hparse, glob_eq_error hparse]
  | ok plain =>
    have hpattern : (Glob.Stored.parse pattern).isOk = true := isOk_iff.2 ⟨plain, hparse⟩
    obtain ⟨parts, paths, hparts, hglob, hsorted, hpaths⟩ := h.exists_glob_below hroot hrel hpattern
    obtain ⟨parts', paths', hparts', hglob', hsorted', hpaths'⟩ :=
      h'.exists_glob_below hroot' hrel hpattern
    cases hparts.symm.trans hparts'
    rw [hglob, hglob']
    refine congrArg Except.ok (Path.eq_of_before hsorted hsorted' fun path => ?_)
    rw [hpaths, hpaths']
    refine exists_congr fun names => and_congr_right fun _ => ?_
    rw [← hsame names]
    refine and_congr_right fun hk => ?_
    have hne : names ≠ [] := by
      rintro rfl
      rw [List.append_nil] at hk
      exact hfile hk
    simp only [hne, false_implies]

/-- What is held below the root after edits below it, whatever the root. -/
theorem held_below {root : String} {edits : List Edit} (h : ∀ e ∈ edits, Path.IsBelow e.path)
    (names : List String) :
    held root edits (Path.resolve [] root ++ names) =
      (edits.reverse.find? fun e => Path.resolve [] e.path = names).bind Edit.content? := by
  have hnames : ∀ e ∈ edits, (namesOf root e.path = Path.resolve [] root ++ names ↔
      Path.resolve [] e.path = names) := by
    intro e he
    have hkey : namesOf root e.path = Path.resolve [] root ++ Path.resolve [] e.path := by
      rw [← key_edited root [] e.path]
      exact (h e he).resolve_eq (Path.resolve [] root)
    rw [hkey, List.append_cancel_left_eq]
  unfold held
  congr 1
  refine List.find?_congr fun e he => ?_
  simp only [hnames e (List.mem_reverse.1 he)]

/-- **The root is taken literally.** Let the same files be placed below two roots without
backslashes. Then each relative pattern finds the same paths under both, or is refused under both
for the same reason. -/
theorem glob_rooted {root root' : String} {edits : List Edit}
    (hroot : '\\' ∉ (edited root edits).rootPath.toList)
    (hroot' : '\\' ∉ (edited root' edits).rootPath.toList)
    (hedits : ∀ e ∈ edits, Path.IsBelow e.path) {pattern : String}
    (hrel : Path.isAbsolute pattern = false) :
    (edited root edits).toFileSystem.glob pattern =
      (edited root' edits).toFileSystem.glob pattern := by
  have hkeys (dir : String) (names : List String) :
      (edited dir edits).root ++ names ∈ (edited dir edits).files.keys ↔
        ((edits.reverse.find? fun e => Path.resolve [] e.path = names).bind
          Edit.content?).isSome = true := by
    rw [mem_keys_edited_iff, root_edited]
    exact Eq.congr (congrArg Option.isSome (held_below hedits names)) rfl
  -- A file at the root itself would be told by the empty path, under one root and not the other.
  have hfile : (edited root edits).root ∉ (edited root edits).files.keys := by
    intro hk
    rw [← List.append_nil (edited root edits).root, hkeys] at hk
    obtain ⟨bytes, hbytes⟩ := Option.isSome_iff_exists.1 hk
    obtain ⟨e, he, -⟩ := Option.bind_eq_some_iff.1 hbytes
    have hmem := List.mem_reverse.1 (List.mem_of_find?_eq_some he)
    have hnil := List.find?_some he
    exact (hedits e hmem).2.2 (of_decide_eq_true hnil)
  refine (named_edited root edits).glob_congr_below (named_edited root' edits)
    (not_mem_spelled hroot) (not_mem_spelled hroot') (fun names => ?_) hfile hrel
  rw [hkeys, hkeys]

/-- A root made of characters that mean something in a pattern, and the top. -/
theorem glob_rooted_top :
    let edits := [Edit.add "a.toml" "".toUTF8, .add "s/b.toml" "".toUTF8]
    '\\' ∉ (edited "/[!a]{b,*}?" edits).rootPath.toList ∧
      '\\' ∉ (edited "/" edits).rootPath.toList ∧ (∀ e ∈ edits, Path.IsBelow e.path) ∧
      (edited "/[!a]{b,*}?" edits).toFileSystem.glob "**/*.toml" = .ok ["a.toml", "s/b.toml"] := by
  intro edits
  have hroot : '\\' ∉ (edited "/[!a]{b,*}?" edits).rootPath.toList := by decide +kernel
  have hroot' : '\\' ∉ (edited "/" edits).rootPath.toList := by decide +kernel
  have hedits : ∀ e ∈ edits, Path.IsBelow e.path := by decide +kernel
  have htop : (edited "/" edits).toFileSystem.glob "**/*.toml" = .ok ["a.toml", "s/b.toml"] := by
    decide +kernel
  exact ⟨hroot, hroot', hedits, (glob_rooted hroot hroot' hedits (by decide +kernel)).trans htop⟩

/-- Under a root with a backslash in its name, a file is there and is not found by its name. -/
theorem not_glob_rooted_backslash :
    let edits := [Edit.add "x.toml" "".toUTF8]
    (∀ e ∈ edits, Path.IsBelow e.path) ∧
      (edited "/a\\b" edits).toFileSystem.metadata "x.toml" = .ok (.file 0) ∧
      (edited "/a\\b" edits).toFileSystem.glob "x.toml" = .ok [] ∧
      (edited "/ab" edits).toFileSystem.glob "x.toml" = .ok ["x.toml"] := by
  decide +kernel

end MemoryFiles

end Rulebook
