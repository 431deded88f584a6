import Rulebook.Files.Path

/-!
# Names and the paths that lead to them

A file is named by the names that lead to it from the top. Whatever its spelling, a path leads to
names proper: no empty text, no `.`, no `..` and nothing with a slash in it (`isName_resolve`). And
names proper are found again when the path that is made of them is followed: from the top
(`resolve_ofNames`), or from the directory that they are relative to (`resolve_relative`).

Following a path is a fold over the texts between its slashes (`resolve_eq_foldl`), which is what
the proofs are inductions over. The path of names spells them one by one, so that a path which
begins with the path of a directory leads through it (`ofNames_eq_spelled_append_iff`).
-/

namespace Rulebook.Path

/-- A text that can be the name of a file in a directory. -/
structure IsName (s : String) : Prop where
  ne_empty : s ≠ ""
  ne_here : s ≠ "."
  ne_up : s ≠ ".."
  slash_not_mem : '/' ∉ s.toList

instance (s : String) : Decidable (IsName s) :=
  decidable_of_iff (s ≠ "" ∧ s ≠ "." ∧ s ≠ ".." ∧ '/' ∉ s.toList)
    ⟨fun h => ⟨h.1, h.2.1, h.2.2.1, h.2.2.2⟩, fun h =>
      ⟨h.ne_empty, h.ne_here, h.ne_up, h.slash_not_mem⟩⟩

/-- Goes on from names by what stands between two slashes. -/
def walk (names : List String) (s : String) : List String :=
  if s = "" || s = "." then names
  else if s = ".." then names.dropLast
  else names ++ [s]

theorem walk_of_isName {s : String} (h : IsName s) (names : List String) :
    walk names s = names ++ [s] := by
  simp [walk, h.ne_empty, h.ne_here, h.ne_up]

theorem foldl_walk_of_isName {names : List String} (h : ∀ n ∈ names, IsName n)
    (dir : List String) : names.foldl walk dir = dir ++ names := by
  induction names generalizing dir with
  | nil => exact (List.append_nil dir).symm
  | cons n names ih =>
    rw [List.foldl_cons, walk_of_isName (h n (List.mem_cons_self ..)),
      ih fun m hm => h m (List.mem_cons_of_mem n hm), List.append_assoc, List.singleton_append]

/-- Steps that go up or to a name are what stands between the slashes. -/
theorem foldl_filterMap_step? {f : List String → Component → List String}
    (hup : ∀ names, f names .up = names.dropLast)
    (hname : ∀ names s, f names (.name s) = names ++ [s]) (segs names : List String) :
    (segs.filterMap step?).foldl f names = segs.foldl walk names := by
  rw [List.foldl_filterMap]
  congr 1
  funext names s
  unfold walk step?
  by_cases hblank : (decide (s = "") || decide (s = ".")) = true
  · rw [if_pos hblank, if_pos hblank]
  · rw [if_neg hblank, if_neg hblank]
    by_cases hs : s = ".."
    · rw [if_pos hs, if_pos hs]
      exact hup names
    · rw [if_neg hs, if_neg hs]
      exact hname names s

/-- **A path is followed name by name,** from the top if it is absolute. -/
theorem resolve_eq_foldl (dir : List String) (path : String) :
    resolve dir path = (segments path).foldl walk (if isAbsolute path then [] else dir) := by
  unfold resolve components
  split
  · rw [List.foldl_cons]
    exact foldl_filterMap_step? (fun _ => rfl) (fun _ _ => rfl) (segments path) []
  · split
    · rw [List.foldl_cons]
      exact foldl_filterMap_step? (fun _ => rfl) (fun _ _ => rfl) (segments path) dir
    · exact foldl_filterMap_step? (fun _ => rfl) (fun _ _ => rfl) (segments path) dir

/-! ## Every path leads to names -/

theorem slash_not_mem_of_mem_segments {s path : String} (h : s ∈ segments path) :
    '/' ∉ s.toList := by
  obtain ⟨cs, hcs, rfl⟩ := List.mem_map.1 h
  rw [String.toList_ofList]
  exact Text.not_mem_of_mem_split hcs

theorem isName_walk {names : List String} (h : ∀ n ∈ names, IsName n) {s : String}
    (hs : '/' ∉ s.toList) : ∀ n ∈ walk names s, IsName n := by
  intro n hn
  unfold walk at hn
  split at hn
  · exact h n hn
  · next hblank =>
    split at hn
    · exact h n (List.dropLast_subset names hn)
    · next hup =>
      rcases List.mem_append.1 hn with hn | hn
      · exact h n hn
      · cases List.mem_singleton.1 hn
        simp only [Bool.or_eq_true, decide_eq_true_eq, not_or] at hblank
        exact ⟨hblank.1, hblank.2, hup, hs⟩

theorem isName_foldl_walk {segs : List String} (hsegs : ∀ s ∈ segs, '/' ∉ s.toList)
    {names : List String} (h : ∀ n ∈ names, IsName n) : ∀ n ∈ segs.foldl walk names, IsName n := by
  induction segs generalizing names with
  | nil => exact h
  | cons s segs ih =>
    have hs := hsegs s (List.mem_cons_self ..)
    exact ih (fun t ht => hsegs t (List.mem_cons_of_mem s ht)) (isName_walk h hs)

theorem isName_resolve {dir : List String} (h : ∀ n ∈ dir, IsName n) (path : String) :
    ∀ n ∈ resolve dir path, IsName n := by
  rw [resolve_eq_foldl]
  refine isName_foldl_walk (fun s => slash_not_mem_of_mem_segments) ?_
  split
  · exact fun n hn => absurd hn List.not_mem_nil
  · exact h

/-! ## Names lead to themselves -/

theorem toList_intercalate (names : List String) :
    ("/".intercalate names).toList = ['/'].intercalate (names.map String.toList) := by
  rw [String.toList_intercalate]
  rfl

theorem slash_not_mem_map {names : List String} (h : ∀ n ∈ names, IsName n) :
    ∀ cs ∈ names.map String.toList, '/' ∉ cs := by
  intro cs hcs
  obtain ⟨n, hn, rfl⟩ := List.mem_map.1 hcs
  exact (h n hn).slash_not_mem

/-- The texts between the slashes of names in a row; no names at all still make one text. -/
theorem segments_intercalate {names : List String} (h : ∀ n ∈ names, IsName n) :
    segments ("/".intercalate names) = if names = [] then [""] else names := by
  split
  · next hnil =>
    subst hnil
    rfl
  · next hne =>
    unfold segments
    rw [toList_intercalate, Text.split_intercalate (by simpa using hne) (slash_not_mem_map h),
      List.map_map]
    simp [Function.comp_def]

theorem foldl_walk_segments {names : List String} (h : ∀ n ∈ names, IsName n)
    (dir : List String) :
    (segments ("/".intercalate names)).foldl walk dir = dir ++ names := by
  rw [segments_intercalate h]
  split
  · next hnil =>
    subst hnil
    exact (List.append_nil dir).symm
  · exact foldl_walk_of_isName h dir

theorem isAbsolute_intercalate {names : List String} (h : ∀ n ∈ names, IsName n) :
    isAbsolute ("/".intercalate names) = false := by
  cases names with
  | nil => rfl
  | cons n names =>
    have hn := h n (List.mem_cons_self ..)
    cases hcs : n.toList with
    | nil => exact absurd (String.toList_eq_nil_iff.1 hcs) hn.ne_empty
    | cons c cs =>
      have hslash := hn.slash_not_mem
      rw [hcs] at hslash
      have hc : c ≠ '/' := fun hc => hslash (hc ▸ List.mem_cons_self ..)
      have hhead : ("/".intercalate (n :: names)).toList.head? = some c := by
        cases names with
        | nil => simp [hcs]
        | cons m names => simp [hcs]
      unfold isAbsolute
      rw [hhead]
      simpa using hc

theorem resolve_relative {names : List String} (h : ∀ n ∈ names, IsName n) (dir : List String) :
    resolve dir ("/".intercalate names) = dir ++ names := by
  rw [resolve_eq_foldl, isAbsolute_intercalate h]
  exact foldl_walk_segments h dir

theorem segments_ofNames (names : List String) :
    segments (ofNames names) = "" :: segments ("/".intercalate names) := by
  unfold segments ofNames
  rw [String.toList_append]
  change (Text.split '/' ('/' :: ("/".intercalate names).toList)).map String.ofList = _
  rw [Text.split_cons_self]
  rfl

theorem isAbsolute_ofNames (names : List String) : isAbsolute (ofNames names) = true := by
  simp [isAbsolute, ofNames]

theorem resolve_ofNames {names : List String} (h : ∀ n ∈ names, IsName n) (dir : List String) :
    resolve dir (ofNames names) = names := by
  rw [resolve_eq_foldl, segments_ofNames, isAbsolute_ofNames, List.foldl_cons]
  exact foldl_walk_segments h []

/-! ## Paths as they are spelled -/

/-- Names in a row, each behind a slash. -/
def spelled (names : List String) : List Char := names.flatMap fun n => '/' :: n.toList

theorem spelled_append (names more : List String) :
    spelled (names ++ more) = spelled names ++ spelled more := List.flatMap_append

theorem spelled_eq_cons {names : List String} (h : names ≠ []) :
    spelled names = '/' :: ("/".intercalate names).toList := by
  rw [toList_intercalate]
  induction names with
  | nil => exact absurd rfl h
  | cons n names ih =>
    cases names with
    | nil => simp [spelled]
    | cons m names =>
      rw [List.map_cons, List.map_cons, List.intercalate_cons_cons, ← List.map_cons,
        List.append_assoc, List.singleton_append, ← ih (by simp)]
      rfl

theorem toList_ofNames {names : List String} (h : names ≠ []) :
    (ofNames names).toList = spelled names := by
  rw [spelled_eq_cons h, ofNames, String.toList_append]
  rfl

theorem mem_ofNames {c : Char} {names : List String} (h : c ∈ (ofNames names).toList) :
    c = '/' ∨ ∃ n ∈ names, c ∈ n.toList := by
  by_cases hne : names = []
  · subst hne
    exact .inl (List.mem_singleton.1 h)
  · rw [toList_ofNames hne] at h
    obtain ⟨n, hn, hc⟩ := List.mem_flatMap.1 h
    exact (List.mem_cons.1 hc).imp_right fun hc => ⟨n, hn, hc⟩

theorem getLast?_spelled {names : List String} (h : ∀ n ∈ names, IsName n)
    (hne : names ≠ []) : ∃ front c, spelled names = front ++ [c] ∧ c ≠ '/' := by
  obtain ⟨init, n, rfl⟩ := (List.eq_nil_or_concat names).resolve_left hne
  have hn := h n (by simp)
  obtain ⟨front, c, hchars⟩ := (List.eq_nil_or_concat n.toList).resolve_left
    fun hnil => hn.ne_empty (String.toList_eq_nil_iff.1 hnil)
  rw [List.concat_eq_append] at hchars
  refine ⟨spelled init ++ '/' :: front, c, ?_, ?_⟩
  · rw [List.concat_eq_append, spelled_append]
    simp [spelled, hchars]
  · rintro rfl
    exact hn.slash_not_mem (by simp [hchars])

theorem split_append_flatMap {piece : List Char} {pieces : List (List Char)} (h : '/' ∉ piece)
    (hall : ∀ p ∈ pieces, '/' ∉ p) :
    Text.split '/' (piece ++ pieces.flatMap ('/' :: ·)) = piece :: pieces := by
  induction pieces generalizing piece with
  | nil => rw [List.flatMap_nil, List.append_nil, Text.split_of_not_mem h]
  | cons p ps ih =>
    rw [List.forall_mem_cons] at hall
    rw [List.flatMap_cons, List.cons_append, Text.split_append_cons h, ih hall.1 hall.2]

/-- Pieces behind a slash each are found again behind an empty one. -/
theorem split_flatMap {pieces : List (List Char)} (h : ∀ p ∈ pieces, '/' ∉ p) :
    Text.split '/' (pieces.flatMap ('/' :: ·)) = [] :: pieces :=
  split_append_flatMap List.not_mem_nil h

theorem split_spelled {names : List String} (h : ∀ n ∈ names, IsName n) :
    Text.split '/' (spelled names) = [] :: names.map String.toList := by
  rw [← split_flatMap (slash_not_mem_map h), List.flatMap_map]
  rfl

/-- A path that begins with names leads through them. -/
theorem prefix_of_spelled_eq {names dir : List String} (h : ∀ n ∈ names, IsName n)
    (hdir : ∀ n ∈ dir, IsName n) {rest : List Char}
    (heq : spelled names = spelled dir ++ '/' :: rest) : ∃ more, names = dir ++ more := by
  have hsplit := congrArg (Text.split '/') heq
  rw [Text.split_append_separator, split_spelled h, split_spelled hdir, List.cons_append,
    List.cons.injEq] at hsplit
  obtain ⟨front, more, rfl, hfront, -⟩ := List.map_eq_append_iff.1 hsplit.2
  rw [List.map_inj_right fun _ _ => String.toList_inj.1] at hfront
  exact ⟨more, by rw [hfront]⟩

/-- **A path that begins with names** goes on with what leads on from there. -/
theorem ofNames_eq_spelled_append_iff {names dir : List String} (h : ∀ n ∈ names, IsName n)
    (hdir : ∀ n ∈ dir, IsName n) {rest : List Char} :
    (ofNames names).toList = spelled dir ++ '/' :: rest ↔
      ∃ more, names = dir ++ more ∧ (more = [] → dir = []) ∧
        rest = ("/".intercalate more).toList := by
  constructor
  · intro heq
    by_cases hne : names = []
    · subst hne
      have hlength := congrArg List.length heq
      rw [List.length_append, List.length_cons] at hlength
      have htop : (ofNames []).toList.length = 1 := rfl
      obtain ⟨hspelled, hrest⟩ : spelled dir = [] ∧ rest = [] := by
        constructor <;> refine List.eq_nil_of_length_eq_zero ?_ <;> omega
      cases dir with
      | nil => exact ⟨[], rfl, fun _ => rfl, hrest⟩
      | cons n dir => cases hspelled
    · rw [toList_ofNames hne] at heq
      obtain ⟨more, rfl⟩ := prefix_of_spelled_eq h hdir heq
      rw [spelled_append, List.append_cancel_left_eq] at heq
      by_cases hmore : more = []
      · subst hmore
        cases heq
      · rw [spelled_eq_cons hmore, List.cons.injEq] at heq
        exact ⟨more, rfl, fun hnil => absurd hnil hmore, heq.2.symm⟩
  · rintro ⟨more, rfl, hmore, rfl⟩
    by_cases hne : more = []
    · cases hne
      cases hmore rfl
      rfl
    · rw [toList_ofNames (by simp [hne]), spelled_append, spelled_eq_cons hne]

/-- A relative path behind a directory goes on from there. -/
theorem join_ofNames {dir names : List String} (hdir : ∀ n ∈ dir, IsName n)
    (h : ∀ n ∈ names, IsName n) (hne : names ≠ []) :
    join (ofNames dir) ("/".intercalate names) = ofNames (dir ++ names) := by
  unfold join
  rw [isAbsolute_intercalate h, if_neg Bool.false_ne_true]
  by_cases hdirne : dir = []
  · subst hdirne
    rfl
  · obtain ⟨front, c, hfront, hc⟩ := getLast?_spelled hdir hdirne
    have hlist := toList_ofNames hdirne
    have hlast : (ofNames dir).toList.getLast? = some c := by
      rw [hlist, hfront, List.getLast?_concat]
    have hdirectory : ofNames dir ≠ "" := by
      simp [ofNames]
    rw [hlast, if_neg (by simpa [hdirectory] using hc), ← String.toList_inj,
      toList_ofNames (by simp [hne]), spelled_append, spelled_eq_cons hne, String.toList_append,
      String.toList_append, hlist]
    simp

end Rulebook.Path
