import Rulebook.Proofs.PathOrder
import Rulebook.Proofs.TreeWalk
import Rulebook.Proofs.Wildcards

/-!
# What patterns find in a tree

A relative pattern is put behind the path of the root, in which every character is taken literally,
and the whole is walked from the top: the names of the root lead to the root (`expand_behind`), and
the pattern leads on from there.

**Theorem (`exists_glob_eq_ok`).** If the patterns between its slashes are simple and do not begin
with a dot, a relative pattern finds the entries below the root whose names from there fit it, each
once and in the order of paths.
-/

namespace Rulebook.FileTree

open Glob (IsSimple Fits)
open Glob.Walk (Part isMatch literalName? selfPart wildPart escapeChar)

theorem literal_eq_wildPart {c d : Char} (h : wildPart c = .literal d) : c = d := by
  unfold wildPart at h
  split at h
  · cases h
  · split at h
    · cases h
    · cases h
      rfl

theorem eq_of_map_wildPart {cs ds : List Char} (h : cs.map wildPart = ds.map .literal) :
    cs = ds := by
  induction cs generalizing ds with
  | nil => exact (List.map_eq_nil_iff.1 h.symm).symm
  | cons c cs ih =>
    obtain ⟨d, ds, rfl, hd, hds⟩ := List.map_eq_cons_iff.1 h.symm
    rw [literal_eq_wildPart hd.symm, ih hds.symm]

theorem isRecursive_map {part : Char → Part} (h : ∀ c, part c ≠ .doubleStar) (cs : List Char) :
    isRecursive (cs.map part) = false := by
  unfold isRecursive
  rw [List.contains_eq_mem, decide_eq_false_iff_not, List.mem_map]
  rintro ⟨c, -, hc⟩
  exact h c hc

/-- What stands between the slashes of a simple pattern is plain. -/
theorem isPlain_wildParts {cs : List Char} (hslash : '/' ∉ cs) (hne : cs ≠ [])
    (hdot : cs.head? ≠ some '.') : IsPlain (cs.map wildPart) where
  not_recursive := by
    refine isRecursive_map (fun c => ?_) cs
    unfold wildPart
    split
    · nofun
    · split <;> nofun
  literal name hname := by
    obtain rfl := eq_of_map_wildPart (literalName?_eq_some hname)
    refine ⟨?_, ?_, ?_, hslash⟩
    · rintro rfl
      exact hne rfl
    · rintro rfl
      exact hdot rfl
    · rintro rfl
      exact hdot rfl
  special hhead := by
    rw [List.head?_map, Option.map_eq_some_iff] at hhead
    obtain ⟨c, hc, hpart⟩ := hhead
    exact absurd (literal_eq_wildPart hpart ▸ hc) hdot

theorem isMatch_selfParts_iff {n m : String} :
    isMatch (n.toList.map selfPart) m = true ↔ m = n := by
  rw [Glob.Walk.isMatch_iff, Glob.Walk.listCovers_map_iff Glob.Walk.covers_selfPart_iff,
    String.toList_inj]

/-- A name that is taken literally is plain. -/
theorem isPlain_selfParts {n : String} (hn : Path.IsName n) :
    IsPlain (n.toList.map selfPart) where
  not_recursive := by
    refine isRecursive_map (fun c => ?_) n.toList
    unfold selfPart
    split <;> nofun
  literal name hname := by
    have hself := (isMatch_of_literalName? hname n).1 (isMatch_selfParts_iff.2 rfl)
    exact hself ▸ hn
  special _ := by
    rw [Bool.eq_false_iff, Bool.eq_false_iff, ne_eq, ne_eq, isMatch_selfParts_iff,
      isMatch_selfParts_iff]
    exact ⟨hn.ne_here.symm, hn.ne_up.symm⟩

/-! ## The root in front -/

theorem slash_of_mem_escapeChar {c : Char} (h : '/' ∈ escapeChar c) : c = '/' := by
  unfold escapeChar at h
  split at h
  · simpa [eq_comm] using h
  · exact (List.mem_singleton.1 h).symm

theorem split_escaped {root : List String} (h : ∀ n ∈ root, Path.IsName n) :
    Text.split '/' ((Path.ofNames root).toList.flatMap escapeChar) =
      [] :: (if root = [] then [""] else root).map fun n => n.toList.flatMap escapeChar := by
  split
  · next hnil =>
    subst hnil
    rfl
  · next hne =>
    have hslash : ∀ cs ∈ root.map (fun n => n.toList.flatMap escapeChar), '/' ∉ cs := by
      intro cs hcs hmem
      obtain ⟨n, hn, rfl⟩ := List.mem_map.1 hcs
      obtain ⟨c, hc, hescape⟩ := List.mem_flatMap.1 hmem
      exact (h n hn).slash_not_mem (slash_of_mem_escapeChar hescape ▸ hc)
    rw [← Path.split_flatMap hslash, Path.toList_ofNames hne, List.flatMap_map, Path.spelled,
      List.flatMap_assoc]
    rfl

/-- A relative pattern whose patterns for names are simple and do not begin with a dot. -/
structure IsNamewise (pattern : String) : Prop where
  simple : IsSimple pattern.toList
  names : ∀ cs ∈ Text.split '/' pattern.toList, cs ≠ [] ∧ cs.head? ≠ some '.'

/-- What comes after the last slash of a pattern without empty names. -/
theorem getLast?_split_ne {front cs : List Char} (h : ∀ ps ∈ Text.split '/' cs, ps ≠ []) :
    (Text.split '/' (front ++ '/' :: cs)).getLast? ≠ some [] := by
  rw [Text.split_append_separator, List.getLast?_append_of_ne_nil _ (Text.split_ne_nil '/' cs)]
  intro hlast
  exact h [] (List.mem_of_getLast? hlast) rfl

theorem nameTexts_append {front cs : List Char} (h : ∀ ps ∈ Text.split '/' cs, ps ≠ []) :
    nameTexts (front ++ '/' :: cs) = Text.split '/' front ++ Text.split '/' cs := by
  unfold nameTexts
  rw [if_neg (getLast?_split_ne h), Text.split_append_separator]

theorem getLast?_ne_slash {front cs : List Char} (h : ∀ ps ∈ Text.split '/' cs, ps ≠ []) :
    (front ++ '/' :: cs).getLast? ≠ some '/' := by
  intro hlast
  obtain ⟨init, hinit⟩ := List.getLast?_eq_some_iff.1 hlast
  refine @getLast?_split_ne front cs h ?_
  rw [hinit, Text.split_append_separator]
  exact List.getLast?_concat

theorem expand_eq {top : FileEntry} {pattern : String} {parts : List Part}
    {patterns : List (List Part)} (hparse : Glob.Walk.parse pattern = .ok parts)
    (hlast : pattern.toList.getLast? ≠ some '/') (hlength : pattern.toList.length ≠ 1)
    (hnames : (nameTexts pattern.toList.tail).mapM (fun n => Glob.Walk.parse (String.ofList n)) =
      .ok patterns) :
    expand top pattern =
      .ok (below top false (3 * (patterns.length + 1) * (top.height + 2)) patterns "/") := by
  unfold expand
  simp only [hparse, hnames, decide_eq_false hlast, if_neg hlength, bind, Except.bind, pure,
    Except.pure]

/-- A pattern of no parts stays where it is. -/
theorem below_nil_cons {top : FileEntry} (h : top.WellFormed) (hdir : top.isDir = true)
    {ps : List (List Part)} (hne : ps ≠ []) (fuel : Nat) :
    below top false (fuel + 1) ([] :: ps) "/" = below top false fuel ps "/" := by
  have hlookup : lookup top "/" = some top := by
    have hnil := lookup_ofNames h hdir fun n (hn : n ∈ []) => absurd hn List.not_mem_nil
    rw [FileEntry.at?_nil] at hnil
    exact hnil
  have hliteral : literalName? [] = some "" := rfl
  have hjoin : Path.join "/" "" = "/" := by decide +kernel
  conv => lhs; unfold below
  simp [hliteral, hjoin, hlookup, hne]

theorem infix_intercalate {α : Type} (sep : List α) {piece : List α} {pieces : List (List α)}
    (h : piece ∈ pieces) : piece <:+: sep.intercalate pieces := by
  induction pieces with
  | nil => exact absurd h List.not_mem_nil
  | cons p ps ih =>
    cases ps with
    | nil =>
      rw [List.intercalate_singleton]
      exact List.mem_singleton.1 h ▸ List.infix_refl piece
    | cons q ps =>
      rw [List.intercalate_cons_cons]
      rcases List.mem_cons.1 h with rfl | h
      · rw [List.append_assoc]
        exact (List.prefix_append _ _).isInfix
      · exact (ih h).trans (List.suffix_append _ _).isInfix

/-- What stands between separators stands in the text. -/
theorem infix_of_mem_split {sep : Char} {cs piece : List Char} (h : piece ∈ Text.split sep cs) :
    piece <:+: cs := by
  have hinfix := infix_intercalate [sep] h
  rwa [Text.intercalate_split] at hinfix

/-- The patterns for the names of a root, which stand for themselves, and for those below it. -/
def patternsBehind (root : List String) (pattern : String) : List (List Part) :=
  root.map (fun n => n.toList.map selfPart) ++ (Text.split '/' pattern.toList).map (·.map wildPart)

theorem isPlain_patternsBehind {root : List String} (hroot : ∀ n ∈ root, Path.IsName n)
    {pattern : String} (hpattern : IsNamewise pattern) :
    ∀ p ∈ patternsBehind root pattern, IsPlain p := by
  refine List.forall_mem_append.2 ⟨fun p hp => ?_, fun p hp => ?_⟩
  · obtain ⟨n, hn, rfl⟩ := List.mem_map.1 hp
    exact isPlain_selfParts (hroot n hn)
  · obtain ⟨cs, hcs, rfl⟩ := List.mem_map.1 hp
    obtain ⟨hne, hdot⟩ := hpattern.names cs hcs
    exact isPlain_wildParts (Text.not_mem_of_mem_split hcs) hne hdot

theorem patternsBehind_ne_nil (root : List String) (pattern : String) :
    patternsBehind root pattern ≠ [] := by
  simp [patternsBehind, Text.split_ne_nil]

/-- What stands between the slashes of a pattern behind a root. The top has an empty name. -/
theorem mapM_parse {root : List String} {pattern : String} (hpattern : IsSimple pattern.toList) :
    ((if root = [] then [""] else root).map (fun n => n.toList.flatMap escapeChar) ++
        Text.split '/' pattern.toList).mapM (fun n => Glob.Walk.parse (String.ofList n)) =
      .ok (if root = [] then [] :: patternsBehind root pattern
        else patternsBehind root pattern) := by
  have hroots : ∀ n ∈ (if root = [] then [""] else root),
      ((fun n => Glob.Walk.parse (String.ofList n)) ∘
        fun n : String => n.toList.flatMap escapeChar) n = .ok (n.toList.map selfPart) := by
    intro n _
    simpa using Glob.Walk.parse_behind Glob.isSimple_nil n.toList
  have hpatterns : ∀ cs ∈ Text.split '/' pattern.toList,
      Glob.Walk.parse (String.ofList cs) = .ok (cs.map wildPart) := by
    intro cs hcs
    exact Glob.Walk.parse_behind (hpattern.of_infix (infix_of_mem_split hcs)) []
  rw [List.mapM_append, List.mapM_map, mapM_eq_map hpatterns, mapM_eq_map hroots]
  refine congrArg Except.ok ?_
  split
  · next hnil =>
    subst hnil
    rfl
  · rfl

/-- **A pattern behind a root** leads from the top through the names of the root. -/
theorem expand_behind {top : FileEntry} (h : top.WellFormed) (hdir : top.isDir = true)
    {root : List String} (hroot : ∀ n ∈ root, Path.IsName n) {pattern : String}
    (hpattern : IsNamewise pattern) :
    expand top (Glob.Walk.escape (Path.ofNames root) ++ "/" ++ pattern) =
      .ok ((reach top (patternsBehind root pattern)).map Path.ofNames) := by
  have hnames : ∀ ps ∈ Text.split '/' pattern.toList, ps ≠ [] :=
    fun ps hps => (hpattern.names ps hps).1
  obtain ⟨front, hfront⟩ : ∃ front,
      (Path.ofNames root).toList.flatMap escapeChar = '/' :: front := by
    refine ⟨("/".intercalate root).toList.flatMap escapeChar, ?_⟩
    rw [Path.ofNames, String.toList_append, List.flatMap_append]
    rfl
  have hlist : (Glob.Walk.escape (Path.ofNames root) ++ "/" ++ pattern).toList =
      '/' :: front ++ '/' :: pattern.toList := by
    rw [String.toList_append, String.toList_append, Glob.Walk.toList_escape, hfront]
    simp
  have hparse := Glob.Walk.parse_behind hpattern.simple.behind_slash
    (Path.ofNames root).toList
  rw [hfront, ← hlist, String.ofList_toList] at hparse
  have htexts : nameTexts (front ++ '/' :: pattern.toList) =
      (if root = [] then [""] else root).map (fun n => n.toList.flatMap escapeChar) ++
        Text.split '/' pattern.toList := by
    have hsplit := split_escaped hroot
    rw [hfront, Text.split_cons_self, List.cons.injEq] at hsplit
    rw [nameTexts_append hnames, hsplit.2]
  have hpatterns := @mapM_parse root _ hpattern.simple
  rw [← htexts] at hpatterns
  rw [expand_eq hparse (hlist ▸ getLast?_ne_slash hnames) (by simp [hlist])
    (by rw [hlist]; exact hpatterns)]
  refine congrArg Except.ok ?_
  have hwalk {fuel : Nat} (hfuel : 3 * (patternsBehind root pattern).length ≤ fuel) :
      below top false fuel (patternsBehind root pattern) "/" =
        (reach top (patternsBehind root pattern)).map Path.ofNames :=
    below_ofNames h hdir (isPlain_patternsBehind hroot hpattern) (patternsBehind_ne_nil _ _) hfuel
      (FileEntry.at?_nil top)
  have hbound (n : Nat) : 3 * n < 3 * (n + 1) * (top.height + 2) := by
    calc 3 * n < 3 * (n + 1) * 1 := by omega
      _ ≤ 3 * (n + 1) * (top.height + 2) := Nat.mul_le_mul_left _ (by omega)
  split
  -- At the top a pattern of no parts comes first, which takes a unit of fuel.
  · obtain ⟨fuel, hfuel⟩ := Nat.exists_eq_add_one_of_ne_zero
      (Nat.ne_zero_of_lt (hbound ([] :: patternsBehind root pattern).length))
    have hlt := hbound ([] :: patternsBehind root pattern).length
    rw [hfuel, List.length_cons] at hlt
    rw [hfuel, below_nil_cons h hdir (patternsBehind_ne_nil _ _)]
    exact hwalk (by omega)
  · exact hwalk (hbound _).le

/-! ## What is found -/

theorem IsNamewise.not_isAbsolute {pattern : String} (h : IsNamewise pattern) :
    Path.isAbsolute pattern = false := by
  unfold Path.isAbsolute
  rw [decide_eq_false_iff_not]
  intro hhead
  obtain ⟨cs, hcs⟩ := List.head?_eq_some_iff.1 hhead
  have hnames := h.names
  rw [hcs, Text.split_cons_self] at hnames
  exact (hnames [] (List.mem_cons_self ..)).1 rfl

/-- The patterns of a root lead through the root and nowhere else. -/
theorem forall₂_selfParts_append_iff {root : List String} {ps : List (List Part)}
    {names : List String} :
    List.Forall₂ (fun p n => isMatch p n = true)
        (root.map (fun n => n.toList.map selfPart) ++ ps) names ↔
      ∃ more, names = root ++ more ∧ List.Forall₂ (fun p n => isMatch p n = true) ps more := by
  induction root generalizing names with
  | nil => simp
  | cons n root ih =>
    rw [List.map_cons, List.cons_append]
    constructor
    · rintro (_ | ⟨hn, hall⟩)
      obtain ⟨more, rfl, hmore⟩ := ih.1 hall
      exact ⟨more, by rw [isMatch_selfParts_iff.1 hn, List.cons_append], hmore⟩
    · rintro ⟨more, rfl, hmore⟩
      exact .cons (isMatch_selfParts_iff.2 rfl) (ih.2 ⟨more, rfl, hmore⟩)

theorem forall₂_wildParts_iff {patterns : List (List Char)} {names : List String}
    (h : ∀ n ∈ names, '/' ∉ n.toList) :
    List.Forall₂ (fun p n => isMatch p n = true) (patterns.map (·.map wildPart)) names ↔
      List.Forall₂ Fits patterns (names.map String.toList) := by
  induction patterns generalizing names with
  | nil => simp
  | cons cs patterns ih =>
    cases names with
    | nil => simp
    | cons n names =>
      rw [List.forall_mem_cons] at h
      rw [List.map_cons, List.map_cons, List.forall₂_cons, List.forall₂_cons, ih h.2,
        Glob.Walk.isMatch_wildParts_iff h.1]

/-- A path is told by its names. -/
theorem fits_path_iff {pattern : List Char} {names : List String}
    (h : ∀ n ∈ names, Path.IsName n) :
    List.Forall₂ Fits (Text.split '/' pattern) (names.map String.toList) ↔
      names ≠ [] ∧ Fits pattern ("/".intercalate names).toList := by
  by_cases hne : names = []
  · subst hne
    refine iff_of_false (fun hall => ?_) fun hfits => hfits.1 rfl
    exact Text.split_ne_nil '/' pattern (List.forall₂_nil_right_iff.1 hall)
  · rw [← Glob.fits_intercalate_iff (fun _ => Text.not_mem_of_mem_split)
      (Path.slash_not_mem_map h) (Text.split_ne_nil '/' pattern) (by simpa using hne),
      Text.intercalate_split, ← Path.toList_intercalate]
    exact (and_iff_right hne).symm

/-- The names that a pattern behind a root leads to. -/
theorem mem_reach_patternsBehind_iff {top : FileEntry} (h : top.WellFormed) {root : List String}
    {pattern : String} {names : List String} :
    names ∈ reach top (patternsBehind root pattern) ↔
      ∃ more, names = root ++ more ∧ more ≠ [] ∧
        Fits pattern.toList ("/".intercalate more).toList ∧
        (top.at? (root ++ more)).isSome = true := by
  have hbelow {more : List String} (hmore : ∀ n ∈ more, Path.IsName n) :
      List.Forall₂ (fun p n => isMatch p n = true)
          ((Text.split '/' pattern.toList).map (·.map wildPart)) more ↔
        more ≠ [] ∧ Fits pattern.toList ("/".intercalate more).toList := by
    rw [forall₂_wildParts_iff fun n hn => (hmore n hn).slash_not_mem, fits_path_iff hmore]
  rw [mem_reach_iff h, patternsBehind, forall₂_selfParts_append_iff]
  constructor
  · rintro ⟨⟨more, rfl, hall⟩, hsome⟩
    have hnames := (List.forall_mem_append.1 (h.isName hsome)).2
    obtain ⟨hne, hfits⟩ := (hbelow hnames).1 hall
    exact ⟨more, rfl, hne, hfits, hsome⟩
  · rintro ⟨more, rfl, hne, hfits, hsome⟩
    have hnames := (List.forall_mem_append.1 (h.isName hsome)).2
    exact ⟨⟨more, rfl, (hbelow hnames).2 ⟨hne, hfits⟩⟩, hsome⟩

theorem glob_eq {t : FileTree} {pattern : String} {parts : List Part} {paths : List String}
    (hparse : Glob.Walk.parse pattern = .ok parts) (hrel : Path.isAbsolute pattern = false)
    (hpaths : expand t.top (Glob.Walk.escape t.rootPath ++ "/" ++ pattern) = .ok paths) :
    t.glob pattern = .ok (Path.sort (paths.map t.belowRoot)) := by
  unfold glob
  simp only [hparse, hrel, if_neg Bool.false_ne_true, hpaths, mapError_ok]
  rfl

/-- **What a pattern finds in a tree** are the entries below the root whose names from there fit
it. -/
theorem exists_glob_eq_ok {t : FileTree} (h : t.top.WellFormed) (hdir : t.top.isDir = true)
    (hroot : ∀ n ∈ t.root, Path.IsName n) {pattern : String} (hpattern : IsNamewise pattern) :
    ∃ paths, t.glob pattern = .ok paths ∧ paths.Pairwise Path.Before ∧
      ∀ path, path ∈ paths ↔ ∃ names, path = "/".intercalate names ∧ names ≠ [] ∧
        Fits pattern.toList path.toList ∧ (t.top.at? (t.root ++ names)).isSome = true := by
  let found := reach t.top (patternsBehind t.root pattern)
  have hfound (names : List String) : names ∈ found ↔ _ := mem_reach_patternsBehind_iff h
  have hpath {more : List String} (hne : more ≠ [])
      (hsome : (t.top.at? (t.root ++ more)).isSome = true) :
      t.belowRoot (Path.ofNames (t.root ++ more)) = "/".intercalate more :=
    belowRoot_ofNames (h.isName hsome) hne
  have hparse := Glob.Walk.parse_behind hpattern.simple []
  rw [List.flatMap_nil, List.nil_append, String.ofList_toList] at hparse
  have hglob := glob_eq hparse hpattern.not_isAbsolute (expand_behind h hdir hroot hpattern)
  refine ⟨_, hglob, Path.before_sort ?_, fun path => ?_⟩
  · rw [List.map_map, List.map_map]
    refine List.Nodup.map_on ?_ (nodup_reach h _)
    intro a ha b hb heq
    obtain ⟨more, rfl, hne, -, hsome⟩ := (hfound a).1 ha
    obtain ⟨more', rfl, hne', -, hsome'⟩ := (hfound b).1 hb
    have hnames := (List.forall_mem_append.1 (h.isName hsome)).2
    have hnames' := (List.forall_mem_append.1 (h.isName hsome')).2
    simp only [Function.comp_apply, hpath hne hsome, hpath hne' hsome',
      Path.components_intercalate hnames, Path.components_intercalate hnames',
      Path.map_name_inj] at heq
    rw [heq]
  · rw [(Path.sort_perm _).mem_iff, List.map_map, List.mem_map]
    constructor
    · rintro ⟨names, hnames, rfl⟩
      obtain ⟨more, rfl, hne, hfits, hsome⟩ := (hfound names).1 hnames
      rw [Function.comp_apply, hpath hne hsome]
      exact ⟨more, rfl, hne, hfits, hsome⟩
    · rintro ⟨more, rfl, hne, hfits, hsome⟩
      exact ⟨t.root ++ more, (hfound _).2 ⟨more, rfl, hne, hfits, hsome⟩, hpath hne hsome⟩

end Rulebook.FileTree
