import Rulebook.Proofs.FileMap
import Rulebook.Proofs.PathOrder
import Rulebook.Proofs.PatternReading

/-!
# What patterns find

A pattern is matched against whole paths, and what it finds is told as paths that can be followed
again, seen from the root if the pattern is relative.

**Theorem (`glob_edited`).** Under a root without a backslash, a well-formed pattern finds exactly
the stored files that it matches with the root in front, each once and in the order of paths, and
every path that is told leads back to the file that was matched.

The root in front of a relative pattern stands for itself, character by character, and the pattern
stands for texts that begin with a slash. So a path that is matched begins with the path of the root
and a slash, which is to say that the names of the file begin with those of the root
(`matches_rooted_iff`). Taking these names off and putting them back changes neither the file
(`Named.key_pathFor`) nor the order (`Named.before_pathFor`).
-/

namespace Rulebook.MemoryFiles

open String (utf8EncodeChar)
open Glob.Stored (escapeChar selfPart readBelow Part Matches slash)

/-- A pattern written out over whole paths: an absolute one as it is, and a relative one behind the
path of the root, in which every character stands for itself, and a slash. -/
inductive WrittenOut (root : List String) : String → String → Prop
  | absolute {pattern : String} : pattern.toList.head? = some '/' → WrittenOut root pattern pattern
  | relative {pattern : String} : pattern.toList.head? ≠ some '/' →
      WrittenOut root pattern
        (String.ofList ((Path.spelled root).flatMap escapeChar) ++ "/" ++ pattern)

theorem WrittenOut.eq_of_relative {root : List String} {pattern whole : String}
    (h : WrittenOut root pattern whole) (hrel : pattern.toList.head? ≠ some '/') :
    whole = String.ofList ((Path.spelled root).flatMap escapeChar) ++ "/" ++ pattern := by
  cases h with
  | absolute habs => exact absurd habs hrel
  | relative _ => rfl

theorem fullPattern_relative {m : MemoryFiles} (h : m.Named) {pattern : String}
    (hrel : Path.isAbsolute pattern = false) : m.fullPattern pattern =
      String.ofList ((Path.spelled m.root).flatMap escapeChar) ++ "/" ++ pattern := by
  have htrim : ((Glob.Stored.escape m.rootPath).toList.reverse.dropWhile (· = '/')).reverse =
      (Path.spelled m.root).flatMap escapeChar := by
    rw [Glob.Stored.toList_escape]
    by_cases hne : m.root = []
    · rw [rootPath, hne]
      rfl
    · rw [rootPath, Path.toList_ofNames hne]
      obtain ⟨front, c, hspelled, hc⟩ := Path.getLast?_spelled h.root hne
      obtain ⟨front', d, hescape, hd⟩ : ∃ front' d, escapeChar c = front' ++ [d] ∧ d ≠ '/' := by
        unfold escapeChar
        split
        · exact ⟨['[', c], ']', rfl, by decide⟩
        · exact ⟨[], c, rfl, hc⟩
      rw [hspelled, List.flatMap_append, List.flatMap_singleton, hescape, ← List.append_assoc,
        List.reverse_append, List.reverse_singleton, List.singleton_append,
        List.dropWhile_cons_of_neg (by simpa using hd), ← List.reverse_concat, List.reverse_reverse]
  unfold fullPattern
  rw [hrel, if_neg (by decide)]
  simp only [htrim]

theorem Named.writtenOut_fullPattern {m : MemoryFiles} (h : m.Named) (pattern : String) :
    WrittenOut m.root pattern (m.fullPattern pattern) := by
  cases habs : Path.isAbsolute pattern with
  | true =>
    rw [fullPattern, if_pos habs]
    exact .absolute (of_decide_eq_true habs)
  | false =>
    rw [fullPattern_relative h habs]
    exact .relative (of_decide_eq_false habs)

theorem parse_fullPattern {m : MemoryFiles} (h : m.Named) (hroot : '\\' ∉ Path.spelled m.root)
    {pattern : String} (hrel : Path.isAbsolute pattern = false) :
    Glob.Stored.parse (m.fullPattern pattern) =
      (readBelow pattern).map ((Path.spelled m.root).map selfPart ++ ·) := by
  rw [fullPattern_relative h hrel]
  exact Glob.Stored.parse_behind hroot pattern

/-- **The root is taken literally.** A relative pattern stands for the files below the root whose
names from there, behind a slash, are what the pattern stands for behind a slash. -/
theorem matches_rooted_iff {dir names : List String} (hdir : ∀ n ∈ dir, Path.IsName n)
    (hnames : ∀ n ∈ names, Path.IsName n) {pattern : String} {parts : List Part}
    (hparts : readBelow pattern = .ok parts) :
    Matches ((Path.spelled dir).map selfPart ++ parts) (Path.ofNames names) ↔
      ∃ more, names = dir ++ more ∧ (more = [] → dir = []) ∧
        Part.ListCovers parts (slash :: Text.bytes ("/".intercalate more)) := by
  obtain ⟨p, ps, hcons, hslashed⟩ := Glob.Stored.slashed_of_readBelow hparts
  have hstart {v : List UInt8} (hv : Part.ListCovers parts v) : ∃ w, v = slash :: w := by
    rw [hcons] at hv
    obtain ⟨_, v, rfl, hu, -⟩ := hv
    obtain ⟨u, rfl⟩ := hslashed.exists_eq_cons hu
    exact ⟨u ++ v, rfl⟩
  -- A pattern that is only `**` matches without regard to its texts; with a root in front none is.
  have hwhole : (Path.spelled dir).map selfPart ++ parts ≠ [.leading] := by
    intro heq
    cases dir with
    | nil =>
      rw [hcons] at heq
      cases heq
      exact hslashed
    | cons n dir => cases (List.cons.inj heq).1
  have hslash : utf8EncodeChar '/' = [slash] := rfl
  unfold Matches
  rw [or_iff_right hwhole, Glob.Stored.listCovers_append_iff]
  simp only [Glob.Stored.listCovers_selfParts_iff]
  constructor
  · rintro ⟨_, v, hbytes, rfl, hv⟩
    obtain ⟨w, rfl⟩ := hstart hv
    have hbegins : (Path.ofNames names).toList.flatMap utf8EncodeChar =
        (Path.spelled dir ++ ['/']).flatMap utf8EncodeChar ++ w := by
      rw [← Text.bytes_eq_flatMap, hbytes, List.flatMap_append, List.flatMap_singleton, hslash,
        List.append_assoc, List.singleton_append]
    obtain ⟨rest, hrest, rfl⟩ := Text.flatMap_encode_eq_append hbegins
    rw [List.append_assoc, List.singleton_append] at hrest
    obtain ⟨more, hmore, hnil, rfl⟩ := (Path.ofNames_eq_spelled_append_iff hnames hdir).1 hrest
    exact ⟨more, hmore, hnil, by rwa [Text.bytes_eq_flatMap]⟩
  · rintro ⟨more, hmore, hnil, hcovers⟩
    have hpath := (Path.ofNames_eq_spelled_append_iff hnames hdir).2 ⟨more, hmore, hnil, rfl⟩
    refine ⟨_, _, ?_, rfl, hcovers⟩
    rw [Text.bytes_eq_flatMap, hpath, List.flatMap_append, List.flatMap_cons, hslash,
      Text.bytes_eq_flatMap]
    rfl

/-- A well-formed pattern is well formed with the root in front, and if it is relative it stands for
files below the root. -/
theorem Named.exists_parse_eq_ok {m : MemoryFiles} (h : m.Named) {pattern : String}
    (hroot : Path.isAbsolute pattern = false → '\\' ∉ Path.spelled m.root)
    (hpattern : (Glob.Stored.parse pattern).isOk = true) :
    ∃ resolved, Glob.Stored.parse (m.fullPattern pattern) = .ok resolved ∧
      (Path.isAbsolute pattern = false → ∃ parts, readBelow pattern = .ok parts ∧
        ∀ k ∈ m.files.keys, Matches resolved (Path.ofNames k) ↔
          ∃ more, k = m.root ++ more ∧ (more = [] → m.root = []) ∧
            Part.ListCovers parts (slash :: Text.bytes ("/".intercalate more))) := by
  cases habs : Path.isAbsolute pattern with
  | true =>
    obtain ⟨plain, hplain⟩ := isOk_iff.1 hpattern
    refine ⟨plain, ?_, fun hrel => nomatch hrel⟩
    rw [fullPattern, if_pos habs, hplain]
  | false =>
    rw [← Glob.Stored.isOk_readBelow] at hpattern
    obtain ⟨parts, hparts⟩ := isOk_iff.1 hpattern
    refine ⟨(Path.spelled m.root).map selfPart ++ parts, ?_,
      fun _ => ⟨parts, hparts, fun k hk => ?_⟩⟩
    · rw [parse_fullPattern h (hroot habs) habs, hparts]
      rfl
    · exact matches_rooted_iff h.root (h.keys k hk) hparts

/-- The path that a pattern finds a file at. -/
def pathFor (m : MemoryFiles) (pattern : String) (names : List String) : String :=
  if Path.isAbsolute pattern then Path.ofNames names else m.belowRoot names

theorem belowRoot_append (m : MemoryFiles) (more : List String) :
    m.belowRoot (m.root ++ more) = "/".intercalate more := by
  simp [belowRoot, List.isPrefixOf_iff_prefix]

theorem pairwise_keys (m : MemoryFiles) : m.files.keys.Pairwise (· < ·) :=
  List.pairwise_map.2 m.files.sorted

theorem lt_of_append_lt {dir a b : List String} (h : dir ++ a < dir ++ b) : a < b := by
  induction dir with
  | nil => exact h
  | cons n dir ih =>
    rcases List.cons_lt_cons_iff.1 h with hlt | ⟨-, hlt⟩
    · exact absurd hlt Std.lt_irrefl
    · exact ih hlt

/-- A path that is found leads back to the file. -/
theorem Named.key_pathFor {m : MemoryFiles} (h : m.Named) (pattern : String) {k : List String}
    (hk : k ∈ m.files.keys) : m.key (m.pathFor pattern k) = k := by
  unfold pathFor
  split
  · exact h.key_ofNames hk
  · exact h.key_belowRoot hk

/-- Paths that are found keep the order of the files. -/
theorem Named.before_pathFor {m : MemoryFiles} (h : m.Named) {pattern : String} {a b : List String}
    (ha : a ∈ m.files.keys) (hb : b ∈ m.files.keys) (hlt : a < b)
    (hbelow : Path.isAbsolute pattern = false → m.root <+: a ∧ m.root <+: b) :
    Path.Before (m.pathFor pattern a) (m.pathFor pattern b) := by
  unfold pathFor
  cases habs : Path.isAbsolute pattern with
  | true => exact Path.before_ofNames (h.keys a ha) (h.keys b hb) hlt
  | false =>
    obtain ⟨⟨a, rfl⟩, b, rfl⟩ := hbelow habs
    rw [if_neg Bool.false_ne_true, if_neg Bool.false_ne_true, belowRoot_append, belowRoot_append]
    exact Path.before_intercalate (fun n hn => h.keys _ ha n (List.mem_append_right _ hn))
      (fun n hn => h.keys _ hb n (List.mem_append_right _ hn)) (lt_of_append_lt hlt)

theorem Named.isAbsolute_pathFor {m : MemoryFiles} (h : m.Named) {pattern : String}
    {k : List String} (hk : k ∈ m.files.keys)
    (hbelow : Path.isAbsolute pattern = false → m.root <+: k) :
    Path.isAbsolute (m.pathFor pattern k) = Path.isAbsolute pattern := by
  unfold pathFor
  cases habs : Path.isAbsolute pattern with
  | true => exact Path.isAbsolute_ofNames k
  | false =>
    obtain ⟨more, rfl⟩ := hbelow habs
    rw [if_neg Bool.false_ne_true, belowRoot_append]
    exact Path.isAbsolute_intercalate fun n hn => h.keys _ hk n (List.mem_append_right _ hn)

/-- **What a well-formed pattern finds,** in the order of paths, are the files that the pattern
stands for once the root is put in front of it. If it is relative they lie below the root. -/
theorem Named.exists_glob_eq_ok {m : MemoryFiles} (h : m.Named) {pattern : String}
    (hroot : Path.isAbsolute pattern = false → '\\' ∉ Path.spelled m.root)
    (hpattern : (Glob.Stored.parse pattern).isOk = true) :
    ∃ resolved paths, Glob.Stored.parse (m.fullPattern pattern) = .ok resolved ∧
      m.glob pattern = .ok paths ∧ paths.Pairwise Path.Before ∧
      (∀ path, path ∈ paths ↔ ∃ k ∈ m.files.keys,
        Matches resolved (Path.ofNames k) ∧ m.pathFor pattern k = path) ∧
      (Path.isAbsolute pattern = false → ∃ parts, readBelow pattern = .ok parts ∧
        ∀ k ∈ m.files.keys, Matches resolved (Path.ofNames k) ↔
          ∃ more, k = m.root ++ more ∧ (more = [] → m.root = []) ∧
            Part.ListCovers parts (slash :: Text.bytes ("/".intercalate more))) := by
  obtain ⟨resolved, hresolved, hrelative⟩ := h.exists_parse_eq_ok hroot hpattern
  obtain ⟨plain, hplain⟩ := isOk_iff.1 hpattern
  have hmem {k : List String} : (k ∈ m.files.keys.filter fun k =>
      Glob.Stored.isMatch resolved (Path.ofNames k)) ↔
      k ∈ m.files.keys ∧ Matches resolved (Path.ofNames k) := by
    rw [List.mem_filter, Glob.Stored.isMatch_iff]
  have hbelow {k : List String} (hk : k ∈ m.files.keys) (hmatch : Matches resolved (Path.ofNames k))
      (hrel : Path.isAbsolute pattern = false) : m.root <+: k := by
    obtain ⟨parts, -, hparts⟩ := hrelative hrel
    obtain ⟨more, hmore, -⟩ := (hparts k hk).1 hmatch
    exact ⟨more, hmore.symm⟩
  refine ⟨resolved, (m.files.keys.filter fun k =>
    Glob.Stored.isMatch resolved (Path.ofNames k)).map (m.pathFor pattern), hresolved, ?_, ?_,
    fun path => ?_, hrelative⟩
  · simp only [glob, hplain, hresolved]
    rfl
  · refine List.pairwise_map.2 ((m.pairwise_keys.filter _).imp_of_mem fun {a b} ha hb hlt => ?_)
    obtain ⟨ha, hmatcha⟩ := hmem.1 ha
    obtain ⟨hb, hmatchb⟩ := hmem.1 hb
    exact h.before_pathFor ha hb hlt fun hrel => ⟨hbelow ha hmatcha hrel, hbelow hb hmatchb hrel⟩
  · simp only [List.mem_map, hmem, and_assoc]

/-- A stored file is held by its last edit. -/
theorem mem_keys_edited_iff {root : String} {edits : List Edit} {names : List String} :
    names ∈ (edited root edits).files.keys ↔ (held root edits names).isSome = true := by
  rw [← content?_edited, content?, SortedMap.isSome_find?_iff]

theorem not_mem_spelled {root : List String} {c : Char} (h : c ∉ (Path.ofNames root).toList) :
    c ∉ Path.spelled root := by
  by_cases hne : root = []
  · subst hne
    exact List.not_mem_nil
  · rwa [Path.toList_ofNames hne] at h

/-- **What a pattern finds.** Under a root without a backslash, a well-formed pattern finds, in the
order of paths and each once, exactly the stored files whose paths are matched by the pattern once
it is written out. The path of a file that is found is absolute if the pattern is; if the pattern is
relative, the path goes down from the root. It leads to the file that was matched: it is that file,
and reading it gives the text of the bytes held there. -/
theorem glob_edited {root : String} {edits : List Edit}
    (hroot : '\\' ∉ (edited root edits).rootPath.toList) {pattern : String}
    (hpattern : (Glob.Stored.parse pattern).isOk = true) :
    let m := edited root edits
    let fs := m.toFileSystem
    ∃ whole resolved paths, WrittenOut m.root pattern whole ∧
      Glob.Stored.parse whole = .ok resolved ∧
      fs.glob pattern = .ok paths ∧ paths.Pairwise Path.Before ∧
      (∀ names, names ∈ paths.map (namesOf root) ↔
        (held root edits names).isSome = true ∧ Matches resolved (Path.ofNames names)) ∧
      ∀ path ∈ paths,
        Path.isAbsolute path = Path.isAbsolute pattern ∧
        (Path.isAbsolute pattern = false →
          .up ∉ Path.components path ∧ m.root <+: namesOf root path) ∧
        ∃ bytes, held root edits (namesOf root path) = some bytes ∧
          fs.metadata path = .ok (.file bytes.size) ∧
          ∀ text, fs.read path = .ok text ↔ text.toUTF8 = bytes := by
  intro m fs
  have hnamed : m.Named := named_edited root edits
  obtain ⟨resolved, paths, hresolved, hglob, hsorted, hpaths, hrelative⟩ :=
    hnamed.exists_glob_eq_ok (fun _ => not_mem_spelled hroot) hpattern
  have hnames {k : List String} (hk : k ∈ m.files.keys) :
      namesOf root (m.pathFor pattern k) = k := by
    rw [← key_edited root edits]
    exact hnamed.key_pathFor pattern hk
  refine ⟨_, resolved, paths, hnamed.writtenOut_fullPattern pattern, hresolved, hglob, hsorted,
    fun names => ?_, fun path hpath => ?_⟩
  · rw [List.mem_map, ← mem_keys_edited_iff]
    constructor
    · rintro ⟨path, hpath, rfl⟩
      obtain ⟨k, hk, hmatch, rfl⟩ := (hpaths path).1 hpath
      rw [hnames hk]
      exact ⟨hk, hmatch⟩
    · rintro ⟨hk, hmatch⟩
      exact ⟨m.pathFor pattern names, (hpaths _).2 ⟨names, hk, hmatch, rfl⟩, hnames hk⟩
  · obtain ⟨k, hk, hmatch, rfl⟩ := (hpaths path).1 hpath
    have hbelow (hrel : Path.isAbsolute pattern = false) : m.root <+: k := by
      obtain ⟨parts, -, hparts⟩ := hrelative hrel
      obtain ⟨more, hmore, -⟩ := (hparts k hk).1 hmatch
      exact ⟨more, hmore.symm⟩
    obtain ⟨bytes, hheld⟩ := Option.isSome_iff_exists.1 (mem_keys_edited_iff.1 hk)
    have hcontent : m.content? (m.key (m.pathFor pattern k)) = some bytes := by
      rw [hnamed.key_pathFor pattern hk, content?_edited, hheld]
    refine ⟨hnamed.isAbsolute_pathFor hk hbelow, fun hrel => ⟨?_, ?_⟩, bytes, ?_,
      congrArg Except.ok (metadata_of_content? _ hcontent),
      fun _ => read_eq_ok_iff_of_content? hcontent⟩
    · obtain ⟨more, rfl⟩ := hbelow hrel
      rw [pathFor, if_neg (by simp [hrel]), belowRoot_append, Path.components_intercalate
        fun n hn => hnamed.keys _ hk n (List.mem_append_right _ hn)]
      simp
    · rw [hnames hk]
      exact hbelow hrel
    · rw [hnames hk, hheld]

/-- Files below a root with brackets in its name, and one beside the root. -/
def bracketedEdits : List Edit :=
  [.add "s/a.toml" "x".toUTF8, .add "b.toml" "y".toUTF8, .add "b.txt" "z".toUTF8,
    .add "/a.toml" "".toUTF8]

/-- A relative pattern finds one of these files and not the others, another finds none, and an
absolute one finds the file beside the root. -/
theorem glob_edited_bracketed :
    let m := edited "/p[1]" bracketedEdits
    let fs := m.toFileSystem
    '\\' ∉ m.rootPath.toList ∧
    (Glob.Stored.parse "*.toml").isOk = true ∧ (Glob.Stored.parse "*.md").isOk = true ∧
    (Glob.Stored.parse "/*.toml").isOk = true ∧
    fs.glob "*.toml" = .ok ["b.toml"] ∧ fs.glob "*.md" = .ok [] ∧
    fs.glob "/*.toml" = .ok ["/a.toml"] ∧
    (∃ resolved, Glob.Stored.parse "/p[[]1[]]/*.toml" = .ok resolved ∧
      Matches resolved (Path.ofNames ["p[1]", "b.toml"]) ∧
      ∀ names ∈ [["p[1]", "b.txt"], ["p[1]", "s", "a.toml"], ["a.toml"]],
        ¬ Matches resolved (Path.ofNames names)) ∧
    (∃ resolved, Glob.Stored.parse "/p[[]1[]]/*.md" = .ok resolved ∧
      ¬ Matches resolved (Path.ofNames ["p[1]", "b.toml"])) ∧
    ∃ bytes, held "/p[1]" bracketedEdits ["a.toml"] = some bytes ∧
      fs.metadata "/a.toml" = .ok (.file bytes.size) := by
  intro m fs
  have hroot : '\\' ∉ m.rootPath.toList := by decide +kernel
  have htoml : (Glob.Stored.parse "*.toml").isOk = true := by decide +kernel
  have hmd : (Glob.Stored.parse "*.md").isOk = true := by decide +kernel
  have habs : (Glob.Stored.parse "/*.toml").isOk = true := by decide +kernel
  have hone : fs.glob "*.toml" = .ok ["b.toml"] := by decide +kernel
  have hnone : fs.glob "*.md" = .ok [] := by decide +kernel
  have hbeside : fs.glob "/*.toml" = .ok ["/a.toml"] := by decide +kernel
  refine ⟨hroot, htoml, hmd, habs, hone, hnone, hbeside, ?_, ?_, ?_⟩
  · obtain ⟨whole, resolved, paths, hwhole, hresolved, hglob, -, hfound, -⟩ :=
      glob_edited hroot htoml
    cases hglob.symm.trans hone
    have hwritten : whole = "/p[[]1[]]/*.toml" :=
      (hwhole.eq_of_relative (by decide)).trans (by decide +kernel)
    have hothers : ∀ names ∈ [["p[1]", "b.txt"], ["p[1]", "s", "a.toml"], ["a.toml"]],
        names ∉ ["b.toml"].map (namesOf "/p[1]") ∧
          (held "/p[1]" bracketedEdits names).isSome = true := by decide +kernel
    refine ⟨resolved, hwritten ▸ hresolved, ((hfound _).1 (by decide +kernel)).2, ?_⟩
    intro names hnames hmatch
    obtain ⟨hnot, hheld⟩ := hothers names hnames
    exact hnot ((hfound names).2 ⟨hheld, hmatch⟩)
  · obtain ⟨whole, resolved, paths, hwhole, hresolved, hglob, -, hfound, -⟩ :=
      glob_edited hroot hmd
    cases hglob.symm.trans hnone
    have hwritten : whole = "/p[[]1[]]/*.md" :=
      (hwhole.eq_of_relative (by decide)).trans (by decide +kernel)
    refine ⟨resolved, hwritten ▸ hresolved, fun hmatch => ?_⟩
    exact List.not_mem_nil ((hfound _).2 ⟨by decide +kernel, hmatch⟩)
  · obtain ⟨-, -, paths, -, -, hglob, -, -, htold⟩ := glob_edited hroot habs
    cases hglob.symm.trans hbeside
    obtain ⟨-, -, bytes, hheld, hmetadata, -⟩ := htold "/a.toml" (by simp)
    have hnames : namesOf "/p[1]" "/a.toml" = ["a.toml"] := by decide +kernel
    exact ⟨bytes, hnames ▸ hheld, hmetadata⟩

end Rulebook.MemoryFiles
