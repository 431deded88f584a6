import Rulebook.Proofs.RootNames
import Rulebook.Proofs.TreePatterns

/-!
# The same files on a disk and in memory

Patterns are matched in two ways: on a disk they are walked name by name, in memory they are held
against whole paths.

**Theorem (`glob_tree`).** Let the files below the root of a tree be held in memory. Then a relative
pattern, made of simple patterns for names that do not begin with a dot, finds the same paths in the
same order in the tree and in memory, but for the directories of the tree.

Both lists are in the order of paths, so it is enough that they have the same members
(`Path.eq_of_before`). In the tree these are the entries whose names fit the pattern
(`FileTree.exists_glob_eq_ok`), and in memory the files whose paths do (`exists_glob_below`). Each
tree can be held in memory, by adding its files one after the other (`held_additions`).
-/

namespace Rulebook

namespace FileEntry

mutual

/-- The files below an entry, with the names that lead to them. -/
def files : FileEntry → List (List String × ByteArray)
  | file content => [([], content)]
  | dir entries => filesIn entries

def filesIn : List (String × FileEntry) → List (List String × ByteArray)
  | [] => []
  | (name, e) :: es => (e.files.map fun f => (name :: f.1, f.2)) ++ filesIn es

end

theorem mem_filesIn_iff {entries : List (String × FileEntry)} {names : List String}
    {content : ByteArray} :
    (names, content) ∈ filesIn entries ↔
      ∃ e ∈ entries, ∃ more, (more, content) ∈ e.2.files ∧ names = e.1 :: more := by
  induction entries with
  | nil => simp [filesIn]
  | cons e es ih =>
    obtain ⟨name, e⟩ := e
    simp only [filesIn, List.mem_append, List.mem_map, ih, List.mem_cons, exists_eq_or_imp]
    refine or_congr_left ?_
    constructor
    · rintro ⟨⟨more, _⟩, hmore, heq⟩
      cases heq
      exact ⟨more, hmore, rfl⟩
    · rintro ⟨more, hmore, rfl⟩
      exact ⟨(more, content), hmore, rfl⟩

/-- **The files of a tree** are the files that names lead to. -/
theorem mem_files_iff {e : FileEntry} (h : e.WellFormed) {names : List String}
    {content : ByteArray} :
    (names, content) ∈ e.files ↔ e.at? names = some (.file content) := by
  induction h generalizing names with
  | file content' => cases names <;> simp [files, at?, eq_comm]
  | @dir entries hnodup hnames hbelow ih =>
    rw [files, mem_filesIn_iff]
    constructor
    · rintro ⟨⟨name, e⟩, he, more, hmore, rfl⟩
      show (find? entries name).bind (·.at? more) = some (.file content)
      rw [(find?_eq_some_iff hnodup).2 he]
      exact (ih _ he).1 hmore
    · intro hat
      cases names with
      | nil => cases hat
      | cons name more =>
        obtain ⟨e, he, hat⟩ := Option.bind_eq_some_iff.1 hat
        have hmem := (find?_eq_some_iff hnodup).1 he
        exact ⟨(name, e), hmem, more, (ih _ hmem).2 hat, rfl⟩

/-- The names that lead from a directory to a file. -/
theorem isName_of_mem_files {e : FileEntry} (h : e.WellFormed) (hdir : e.isDir = true)
    {names : List String} {content : ByteArray} (hmem : (names, content) ∈ e.files) :
    names ≠ [] ∧ ∀ n ∈ names, Path.IsName n := by
  have hat := (mem_files_iff h).1 hmem
  refine ⟨?_, fun n hn => ((h.of_at? hat).2 n hn).1⟩
  rintro rfl
  rw [at?_nil] at hat
  cases hat
  cases hdir

end FileEntry

namespace MemoryFiles

open FileTree (IsNamewise)
open Glob (IsAscii IsSimple Fits)
open Glob.Stored (Part slash)

/-- The edits that add the files of a tree. -/
def additions (e : FileEntry) : List Edit :=
  e.files.map fun f => .add ("/".intercalate f.1) f.2

/-- **Each tree can be held in memory,** below any root. -/
theorem held_additions {e : FileEntry} (h : e.WellFormed) (hdir : e.isDir = true) (root : String)
    (names : List String) (content : ByteArray) :
    held root (additions e) (Path.resolve [] root ++ names) = some content ↔
      e.at? names = some (.file content) := by
  have hfile {names : List String} {content : ByteArray} (hmem : (names, content) ∈ e.files) :
      names ≠ [] ∧ ∀ n ∈ names, Path.IsName n := FileEntry.isName_of_mem_files h hdir hmem
  have hresolve {names : List String} {content : ByteArray} (hmem : (names, content) ∈ e.files) :
      Path.resolve [] ("/".intercalate names) = names :=
    Path.resolve_relative (hfile hmem).2 []
  have hbelow : ∀ a ∈ additions e, Path.IsBelow a.path := by
    intro a ha
    obtain ⟨⟨names, content⟩, hmem, rfl⟩ := List.mem_map.1 ha
    exact Path.isBelow_intercalate (hfile hmem).2 (hfile hmem).1
  -- Only one file has these names, so it is no matter which edit is the last.
  have hfound {a : Edit}
      (hfind : (additions e).reverse.find? (fun a => Path.resolve [] a.path = names) = some a) :
      ∃ content, (names, content) ∈ e.files ∧ a.content? = some content := by
    obtain ⟨⟨names', content⟩, hmem, rfl⟩ :=
      List.mem_map.1 (List.mem_reverse.1 (List.mem_of_find?_eq_some hfind))
    have hnames := List.find?_some hfind
    have hnames : Path.resolve [] ("/".intercalate names') = names := of_decide_eq_true hnames
    rw [hresolve hmem] at hnames
    exact ⟨content, hnames ▸ hmem, rfl⟩
  rw [held_below hbelow, ← FileEntry.mem_files_iff h]
  constructor
  · intro hheld
    obtain ⟨a, hfind, hcontent⟩ := Option.bind_eq_some_iff.1 hheld
    obtain ⟨content', hmem, hcontent'⟩ := hfound hfind
    cases hcontent.symm.trans hcontent'
    exact hmem
  · intro hmem
    have hadded : Edit.add ("/".intercalate names) content ∈ (additions e).reverse :=
      List.mem_reverse.2 (List.mem_map_of_mem hmem)
    have hsome : ((additions e).reverse.find? fun a => Path.resolve [] a.path = names).isSome :=
      List.find?_isSome.2 ⟨_, hadded, decide_eq_true (hresolve hmem)⟩
    obtain ⟨a, hfind⟩ := Option.isSome_iff_exists.1 hsome
    obtain ⟨content', hmem', hcontent'⟩ := hfound hfind
    rw [hfind, Option.bind_some, hcontent']
    have hat := (FileEntry.mem_files_iff h).1 hmem
    have hat' := (FileEntry.mem_files_iff h).1 hmem'
    cases hat.symm.trans hat'
    rfl

theorem isAscii_intercalate {names : List String} (h : ∀ n ∈ names, IsAscii n.toList) :
    IsAscii ("/".intercalate names).toList := by
  intro c hc
  have hmem : c ∈ (Path.ofNames names).toList := by
    rw [Path.ofNames, String.toList_append]
    exact List.mem_append_right _ hc
  rcases Path.mem_ofNames hmem with rfl | ⟨n, hn, hcn⟩
  · decide
  · exact h n hn c hcn

/-- What a simple pattern finds in memory are the files whose paths from the root fit it. -/
theorem Named.exists_glob_fits {m : MemoryFiles} (h : m.Named) (hroot : '\\' ∉ Path.spelled m.root)
    (hfile : m.root ∉ m.files.keys)
    (hascii : ∀ names, m.root ++ names ∈ m.files.keys → ∀ n ∈ names, IsAscii n.toList)
    {pattern : String} (hpattern : IsSimple pattern.toList)
    (hrel : Path.isAbsolute pattern = false) :
    ∃ paths, m.glob pattern = .ok paths ∧ paths.Pairwise Path.Before ∧
      ∀ path, path ∈ paths ↔ ∃ names, path = "/".intercalate names ∧ names ≠ [] ∧
        Fits pattern.toList path.toList ∧ m.root ++ names ∈ m.files.keys := by
  have hparse : (Glob.Stored.parse pattern).isOk = true :=
    isOk_iff.2 ⟨_, Glob.Stored.parse_of_isSimple hpattern⟩
  obtain ⟨parts, paths, hparts, hglob, hsorted, hpaths⟩ := h.exists_glob_below hroot hrel hparse
  cases hparts.symm.trans (Glob.Stored.readBelow_of_isSimple hpattern)
  have hcovers {path : String} (hpath : IsAscii path.toList) :
      Part.ListCovers (('/' :: pattern.toList).map Glob.Stored.wildPart)
        (slash :: Text.bytes path) ↔ Fits pattern.toList path.toList := by
    have hslashed : IsAscii ('/' :: path.toList) := List.forall_mem_cons.2 ⟨by decide, hpath⟩
    have hslash := @Glob.fits_append_slash_iff [] [] pattern.toList path.toList
    rw [Glob.Stored.slash_cons_bytes, Glob.Stored.listCovers_wildParts_iff hslashed]
    exact (hslash List.not_mem_nil List.not_mem_nil).trans (and_iff_right rfl)
  refine ⟨paths, hglob, hsorted, fun path => (hpaths path).trans (exists_congr fun names => ?_)⟩
  constructor
  · rintro ⟨rfl, hk, -, hmatch⟩
    refine ⟨rfl, ?_, (hcovers (isAscii_intercalate (hascii names hk))).1 hmatch, hk⟩
    rintro rfl
    rw [List.append_nil] at hk
    exact hfile hk
  · rintro ⟨rfl, hne, hfits, hk⟩
    exact ⟨rfl, hk, fun hnil => absurd hnil hne,
      (hcovers (isAscii_intercalate (hascii names hk))).2 hfits⟩

/-- **The same files are found** on a disk and in memory. Let a directory of a well-formed tree be
taken as the root, whose path has no backslash, let the names on the way to a file below it be of
ASCII characters, and let these files be held in memory under the same root. Then a relative
pattern, made of simple patterns for names that do not begin with a dot, finds paths in the tree,
and in memory it finds those of them that are no directories, in the same order. What it finds in
the tree, in the order of paths, is what lies below the root at the paths that fit it. -/
theorem glob_tree {top : FileEntry} (htop : top.WellFormed) {path : String} {t : FileTree}
    (hopen : FileTree.openAt top path = .ok t) (hroot : '\\' ∉ t.rootPath.toList)
    (hascii : ∀ names content, top.at? (t.root ++ names) = some (.file content) →
      ∀ n ∈ names, IsAscii n.toList)
    {edits : List Edit}
    (hsame : ∀ names content, held t.rootPath edits (t.root ++ names) = some content ↔
      top.at? (t.root ++ names) = some (.file content))
    {pattern : String} (hpattern : IsNamewise pattern) :
    ∃ paths, t.toFileSystem.glob pattern = .ok paths ∧
      (edited t.rootPath edits).toFileSystem.glob pattern =
        .ok (paths.filter fun p => t.toFileSystem.metadata p ≠ .ok .directory) ∧
      paths.Pairwise Path.Before ∧
      ∀ p, p ∈ paths ↔ ∃ names, p = "/".intercalate names ∧ names ≠ [] ∧
        Fits pattern.toList p.toList ∧ (top.at? (t.root ++ names)).isSome = true := by
  obtain ⟨rfl, entries, hat⟩ := FileTree.exists_at?_root hopen
  let m := edited t.rootPath edits
  have hnames : ∀ n ∈ t.root, Path.IsName n := fun n hn => ((htop.of_at? hat).2 n hn).1
  have hdir : t.top.isDir = true := FileEntry.isDir_of_at? hat
  have hmroot : m.root = t.root := (root_edited _ edits).trans (Path.resolve_ofNames hnames [])
  have hkeys (names : List String) : m.root ++ names ∈ m.files.keys ↔
      ∃ content, t.top.at? (t.root ++ names) = some (.file content) := by
    rw [hmroot, mem_keys_edited_iff, Option.isSome_iff_exists]
    exact exists_congr fun content => hsame names content
  -- The root is a directory of the tree, so that no file in memory stands in its place.
  have hfile : m.root ∉ m.files.keys := by
    rw [← List.append_nil m.root, hkeys, List.append_nil, hat]
    rintro ⟨content, hcontent⟩
    cases hcontent
  have hasciiKeys (names : List String) (hk : m.root ++ names ∈ m.files.keys) :
      ∀ n ∈ names, IsAscii n.toList := by
    obtain ⟨content, hcontent⟩ := (hkeys names).1 hk
    exact hascii names content hcontent
  obtain ⟨paths, hglob, hsorted, hpaths⟩ :=
    FileTree.exists_glob_eq_ok htop hdir hnames hpattern
  obtain ⟨found, hfound, hbefore, hmem⟩ := (named_edited t.rootPath edits).exists_glob_fits
    (hmroot ▸ not_mem_spelled hroot) hfile hasciiKeys hpattern.simple hpattern.not_isAbsolute
  refine ⟨paths, hglob, hfound.trans (congrArg Except.ok ?_), hsorted, hpaths⟩
  refine Path.eq_of_before hbefore (hsorted.filter _) fun path => ?_
  rw [hmem, List.mem_filter, hpaths, decide_eq_true_eq]
  constructor
  · rintro ⟨names, rfl, hne, hfits, hk⟩
    obtain ⟨content, hcontent⟩ := (hkeys names).1 hk
    refine ⟨⟨names, rfl, hne, hfits, Option.isSome_iff_exists.2 ⟨_, hcontent⟩⟩, ?_⟩
    show t.metadata _ ≠ _
    rw [FileTree.metadata_intercalate htop hdir hne hcontent]
    simp [Metadata.file, Metadata.directory]
  · rintro ⟨⟨names, rfl, hne, hfits, hsome⟩, hmetadata⟩
    refine ⟨names, rfl, hne, hfits, (hkeys names).2 ?_⟩
    obtain ⟨e, he⟩ := Option.isSome_iff_exists.1 hsome
    cases e with
    | file content => exact ⟨content, he⟩
    | dir below =>
      exact absurd (FileTree.metadata_intercalate htop hdir hne he) hmetadata

/-- A file whose name begins with a dot, and a directory with the name of a file. -/
theorem glob_tree_hidden :
    let below := FileEntry.dir [("a.toml", .file "x".toUTF8), (".b.toml", .file "".toUTF8),
      ("s.toml", .dir [("c.toml", .file "y".toUTF8)])]
    let t : FileTree := ⟨.dir [("r", below)], ["r"]⟩
    let edits := additions below
    t.top.WellFormed ∧ FileTree.openAt t.top "/r" = .ok t ∧ '\\' ∉ t.rootPath.toList ∧
      (∀ names content, t.top.at? (t.root ++ names) = some (.file content) →
        ∀ n ∈ names, IsAscii n.toList) ∧
      (∀ names content, held t.rootPath edits (t.root ++ names) = some content ↔
        t.top.at? (t.root ++ names) = some (.file content)) ∧
      IsNamewise "*.toml" ∧
      t.toFileSystem.glob "*.toml" = .ok [".b.toml", "a.toml", "s.toml"] ∧
      (edited t.rootPath edits).toFileSystem.glob "*.toml" = .ok [".b.toml", "a.toml"] := by
  intro below t edits
  have hbelow : below.WellFormed := by
    refine .dir (by decide +kernel) (by decide +kernel) ?_
    simp only [List.forall_mem_cons]
    refine ⟨.file _, .file _, .dir (by decide +kernel) (by decide +kernel) ?_, ?_⟩
    · exact List.forall_mem_singleton.2 (.file _)
    · exact fun _ hn => absurd hn List.not_mem_nil
  have htop : t.top.WellFormed :=
    .dir (by decide +kernel) (by decide +kernel) (List.forall_mem_singleton.2 hbelow)
  have hopen : FileTree.openAt t.top "/r" = .ok t := rfl
  have hroot : '\\' ∉ t.rootPath.toList := by decide +kernel
  have hascii : ∀ names content, t.top.at? (t.root ++ names) = some (.file content) →
      ∀ n ∈ names, IsAscii n.toList := by
    have hfiles : ∀ f ∈ below.files, ∀ n ∈ f.1, IsAscii n.toList := by decide +kernel
    intro names content hfile
    exact hfiles (names, content) ((FileEntry.mem_files_iff hbelow).2 hfile)
  have hsame (names : List String) (content : ByteArray) :
      held t.rootPath edits (t.root ++ names) = some content ↔
        t.top.at? (t.root ++ names) = some (.file content) := by
    have hheld := held_additions hbelow rfl t.rootPath names content
    have hresolve : Path.resolve [] t.rootPath = t.root := by decide +kernel
    rwa [hresolve] at hheld
  have hpattern : IsNamewise "*.toml" := ⟨by decide +kernel, by decide +kernel⟩
  have htree : t.toFileSystem.glob "*.toml" = .ok [".b.toml", "a.toml", "s.toml"] := by
    have hexpand : FileTree.expand t.top (Glob.Walk.escape t.rootPath ++ "/" ++ "*.toml") =
        .ok ["/r/a.toml", "/r/.b.toml", "/r/s.toml"] := by decide +kernel
    refine (FileTree.glob_eq rfl hpattern.not_isAbsolute hexpand).trans (congrArg Except.ok ?_)
    exact Path.sort_eq (by decide +kernel) (by decide +kernel)
  obtain ⟨paths, hpaths, hmemory, -⟩ := glob_tree htop hopen hroot hascii hsame hpattern
  cases htree.symm.trans hpaths
  exact ⟨htop, hopen, hroot, hascii, hsame, hpattern, htree, hmemory.trans (by decide +kernel)⟩

end MemoryFiles

end Rulebook
