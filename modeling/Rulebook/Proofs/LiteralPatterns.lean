import Rulebook.Proofs.FoundFiles
import Rulebook.Proofs.Resolution

/-!
# Patterns without wildcards

A pattern without wildcards, groups and escapes stands for itself. It is compared with the paths of
the files as they are told, while all other operations follow a path whatever its spelling.

**Theorem (`glob_literal`).** A pattern without wildcards that leads to a file finds exactly that
file, at the pattern itself, if it is spelled as paths are told, and nothing if it is spelled in
another way. So rule files that are listed by their plain paths are never missing.

A file is matched just if its path as it is told is the pattern (`Named.glob_of_isLiteral`). With a
`.`, a `..` or a slash too many, a path still leads to the file, and a list of rule files with that
path is refused (`not_glob_literal_here`).
-/

namespace Rulebook

namespace Glob.Stored

/-- A pattern without wildcards, groups and escapes. -/
def IsLiteral (pattern : String) : Prop := ∀ c ∈ pattern.toList, c ∉ bracketed ∧ c ≠ '\\'

instance (pattern : String) : Decidable (IsLiteral pattern) :=
  List.decidableBAll (fun c => c ∉ bracketed ∧ c ≠ '\\') pattern.toList

/-- **A pattern without wildcards is read as itself.** -/
theorem read_literal {pattern : String} (h : IsLiteral pattern) (parts : List Part)
    (before : Option Char) :
    read ⟨parts, []⟩ before pattern.toList =
      .ok (parts.reverse ++ pattern.toList.map selfPart) := by
  have hbackslash : '\\' ∉ pattern.toList := fun hmem => (h _ hmem).2 rfl
  have hself : ∀ c ∈ pattern.toList, escapeChar c = [c] := fun c hc => if_neg (h c hc).1
  obtain ⟨last, hread⟩ := read_escaped hbackslash parts before []
  rw [List.flatMap_congr hself, List.flatMap_singleton', List.append_nil] at hread
  rw [hread, read_nil]
  simp

theorem parse_literal {pattern : String} (h : IsLiteral pattern) :
    parse pattern = .ok (pattern.toList.map selfPart) := by
  rw [parse_eq_read]
  exact read_literal h [] none

theorem readBelow_literal {pattern : String} (h : IsLiteral pattern) :
    readBelow pattern = .ok (('/' :: pattern.toList).map selfPart) :=
  read_literal h [.literal '/'] (some '/')

theorem selfPart_ne_leading (c : Char) : selfPart c ≠ .leading := by
  unfold selfPart
  split
  · nofun
  · nofun

theorem matches_selfParts_iff {pattern text : String} :
    Matches (pattern.toList.map selfPart) text ↔ text = pattern := by
  have hwhole : pattern.toList.map selfPart ≠ [.leading] := by
    intro heq
    obtain ⟨c, -, -, hc, -⟩ := List.map_eq_cons_iff.1 heq
    exact selfPart_ne_leading c hc
  unfold Matches
  rw [or_iff_right hwhole, listCovers_selfParts_iff, ← Text.bytes_eq_flatMap, Text.bytes_inj]

end Glob.Stored

namespace MemoryFiles

open Glob.Stored (IsLiteral selfPart Part Matches slash)

/-- A path that is spelled as it is told: names proper with one slash between two of them, and one
in front of them if the path is absolute. No names at all are told only at the top. -/
def IsTold (root : List String) (path : String) : Prop :=
  ∃ names, (∀ n ∈ names, Path.IsName n) ∧
    (path = Path.ofNames names ∨ path = "/".intercalate names ∧ (names = [] → root = []))

/-- A path that is told is the one that its file is found at. -/
theorem pathFor_key {m : MemoryFiles} {path : String}
    (htold : IsTold m.root path) : m.pathFor path (m.key path) = path := by
  obtain ⟨names, hnames, rfl | ⟨rfl, -⟩⟩ := htold
  · rw [pathFor, Path.isAbsolute_ofNames, if_pos rfl, key, Path.resolve_ofNames hnames]
  · rw [pathFor, Path.isAbsolute_intercalate hnames, if_neg Bool.false_ne_true, key,
      Path.resolve_relative hnames, belowRoot_append]

/-- **A pattern without wildcards that leads to a file** finds it just if it is spelled as the path
of the file is told. -/
theorem Named.glob_of_isLiteral {m : MemoryFiles} (h : m.Named) {pattern : String}
    (hliteral : IsLiteral pattern)
    (hroot : Path.isAbsolute pattern = false → '\\' ∉ Path.spelled m.root)
    (hfile : m.key pattern ∈ m.files.keys) :
    IsTold m.root pattern ∧ m.glob pattern = .ok [pattern] ∨
      ¬ IsTold m.root pattern ∧ m.glob pattern = .ok [] := by
  have hparse := Glob.Stored.parse_literal hliteral
  obtain ⟨resolved, paths, hresolved, hglob, hsorted, hpaths, hrelative⟩ :=
    h.exists_glob_eq_ok hroot (isOk_iff.2 ⟨_, hparse⟩)
  have hmatches {k : List String} (hk : k ∈ m.files.keys) :
      Matches resolved (Path.ofNames k) ↔
        m.pathFor pattern k = pattern ∧ IsTold m.root pattern := by
    cases habs : Path.isAbsolute pattern with
    | true =>
      rw [fullPattern, if_pos habs, hparse] at hresolved
      cases hresolved
      rw [Glob.Stored.matches_selfParts_iff, pathFor, habs, if_pos rfl]
      exact ⟨fun heq => ⟨heq, k, h.keys k hk, .inl heq.symm⟩, And.left⟩
    | false =>
      obtain ⟨parts, hparts, hmatches⟩ := hrelative habs
      cases (Glob.Stored.readBelow_literal hliteral).symm.trans hparts
      have hcovers (names : List String) : Part.ListCovers (('/' :: pattern.toList).map selfPart)
          (slash :: Text.bytes ("/".intercalate names)) ↔ "/".intercalate names = pattern := by
        rw [Glob.Stored.listCovers_selfParts_iff, ← Glob.Stored.slash_cons_bytes,
          List.cons_inj_right, Text.bytes_inj]
      rw [hmatches k hk]
      simp only [hcovers]
      constructor
      · rintro ⟨names, rfl, hnil, heq⟩
        have hnames : ∀ n ∈ names, Path.IsName n := fun n hn =>
          h.keys _ hk n (List.mem_append_right _ hn)
        rw [pathFor, habs, if_neg Bool.false_ne_true, belowRoot_append]
        exact ⟨heq, names, hnames, .inr ⟨heq.symm, hnil⟩⟩
      · rintro ⟨hpath, names, hnames, rfl | ⟨rfl, hnil⟩⟩
        · rw [Path.isAbsolute_ofNames] at habs
          cases habs
        · have hkey := h.key_pathFor ("/".intercalate names) hk
          rw [hpath, key, Path.resolve_relative hnames] at hkey
          exact ⟨names, hkey.symm, hnil, rfl⟩
  rw [hglob]
  by_cases htold : IsTold m.root pattern
  · refine .inl ⟨htold, congrArg Except.ok (Path.eq_of_before hsorted (List.pairwise_singleton _ _)
      fun path => (hpaths path).trans ?_)⟩
    rw [List.mem_singleton]
    constructor
    · rintro ⟨k, hk, hmatch, rfl⟩
      exact ((hmatches hk).1 hmatch).1
    · rintro rfl
      have hpath := pathFor_key htold
      exact ⟨m.key path, hfile, (hmatches hfile).2 ⟨hpath, htold⟩, hpath⟩
  · refine .inr ⟨htold, congrArg Except.ok (List.eq_nil_iff_forall_not_mem.2 fun path hpath => ?_)⟩
    obtain ⟨k, hk, hmatch, -⟩ := (hpaths path).1 hpath
    exact htold ((hmatches hk).1 hmatch).2

/-- A list of rule files is refused for want of a match only if one of its patterns matches
nothing. -/
theorem exists_glob_eq_nil {fs : FileSystem} {ctx : ParseContext} {policy : FailurePolicy}
    {patterns : List RulePattern} {engine : LoadedRules} {text : String}
    (h : Resolution.resolve fs ctx policy patterns engine = .error (.noMatchingFiles text)) :
    ∃ p ∈ patterns, fs.glob p.text = .ok [] := by
  rw [Resolution.resolve_eq_error_iff] at h
  obtain ⟨s, hs, hstop⟩ := List.exists_of_findSome?_eq_some h
  rw [Resolution.stop?_eq_some_iff] at hstop
  cases hstop
  obtain ⟨p, hp, hstep⟩ := List.mem_flatMap.1 hs
  refine ⟨p, hp, ?_⟩
  unfold Resolution.stepsOf at hstep
  split at hstep
  · cases hstep
  · next hglob => exact hglob
  · next files _ _ =>
    obtain ⟨file, -, hfile⟩ := List.mem_map.1 hstep
    cases hfile

/-- **A pattern without wildcards finds the file that it names** if it is spelled as the path is
told, and otherwise nothing. So a list of rule files that names existing files by their plain paths
is never refused for want of a match. -/
theorem glob_literal {root : String} {edits : List Edit} {patterns : List RulePattern}
    (hliteral : ∀ p ∈ patterns, IsLiteral p.text)
    (hroot : ∀ p ∈ patterns, Path.isAbsolute p.text = false →
      '\\' ∉ (edited root edits).rootPath.toList)
    (hfile : ∀ p ∈ patterns, (held root edits (namesOf root p.text)).isSome = true) :
    let fs := (edited root edits).toFileSystem
    let told := IsTold (Path.resolve [] root)
    (∀ p ∈ patterns,
      told p.text ∧ fs.glob p.text = .ok [p.text] ∨ ¬ told p.text ∧ fs.glob p.text = .ok []) ∧
    ((∀ p ∈ patterns, told p.text) → ∀ ctx policy (engine : LoadedRules) text,
      Resolution.resolve fs ctx policy patterns engine ≠ .error (.noMatchingFiles text)) := by
  intro fs told
  have hglob : ∀ p ∈ patterns,
      told p.text ∧ fs.glob p.text = .ok [p.text] ∨ ¬ told p.text ∧ fs.glob p.text = .ok [] := by
    intro p hp
    have hkey : (edited root edits).key p.text ∈ (edited root edits).files.keys := by
      rw [key_edited, mem_keys_edited_iff]
      exact hfile p hp
    have hfound := (named_edited root edits).glob_of_isLiteral (hliteral p hp)
      (fun hrel => not_mem_spelled (hroot p hp hrel)) hkey
    rw [root_edited] at hfound
    exact hfound
  refine ⟨hglob, fun htold ctx policy engine text hrefused => ?_⟩
  obtain ⟨p, hp, hnil⟩ := exists_glob_eq_nil hrefused
  rcases hglob p hp with ⟨-, hself⟩ | ⟨hnot, -⟩
  · rw [hself] at hnil
    cases hnil
  · exact hnot (htold p hp)

/-- A relative path and an absolute one. -/
theorem glob_literal_plain :
    let edits := [Edit.add "a.toml" "".toUTF8, .add "s/b.toml" "".toUTF8]
    let fs := (edited "/r" edits).toFileSystem
    let patterns : List RulePattern := [⟨"a.toml"⟩, ⟨"/r/s/b.toml"⟩]
    (∀ p ∈ patterns, IsLiteral p.text) ∧
      (∀ p ∈ patterns, (held "/r" edits (namesOf "/r" p.text)).isSome = true) ∧
      ∀ ctx policy (engine : LoadedRules) text,
        Resolution.resolve fs ctx policy patterns engine ≠ .error (.noMatchingFiles text) := by
  intro edits fs patterns
  have hliteral : ∀ p ∈ patterns, IsLiteral p.text := by decide +kernel
  have hroot : '\\' ∉ (edited "/r" edits).rootPath.toList := by decide +kernel
  have hfile : ∀ p ∈ patterns, (held "/r" edits (namesOf "/r" p.text)).isSome = true := by
    decide +kernel
  have htold : ∀ p ∈ patterns, IsTold (Path.resolve [] "/r") p.text := by
    have hnames (path : String) : ∀ n ∈ Path.resolve [] path, Path.IsName n :=
      Path.isName_resolve (fun _ hn => absurd hn List.not_mem_nil) path
    intro p hp
    rcases List.mem_cons.1 hp with rfl | hp
    · exact ⟨_, hnames "a.toml", .inr (by decide +kernel)⟩
    · cases List.mem_singleton.1 hp
      exact ⟨_, hnames "/r/s/b.toml", .inl (by decide +kernel)⟩
  exact ⟨hliteral, hfile, (glob_literal hliteral (fun _ _ _ => hroot) hfile).2 htold⟩

/-- A file is there at a path with a `.` in front, and that path finds nothing. -/
theorem not_glob_literal_here :
    let fs := (edited "/" [.add "a.toml" "".toUTF8]).toFileSystem
    IsLiteral "./a.toml" ∧ fs.metadata "./a.toml" = .ok (.file 0) ∧ fs.glob "./a.toml" = .ok [] ∧
      Resolution.resolve fs {} .lenient [⟨"./a.toml"⟩] ({} : LoadedRules) =
        .error (.noMatchingFiles "./a.toml") := by
  intro fs
  have hglob : fs.glob "./a.toml" = .ok [] := by decide +kernel
  refine ⟨by decide +kernel, by decide +kernel, hglob, ?_⟩
  simp [Resolution.resolve, Resolution.addPattern, hglob]

end MemoryFiles

end Rulebook
