import Rulebook.Proofs.TreeNames
import Rulebook.Proofs.WalkTexts
import Mathlib.Data.List.Nodup

/-!
# Walking a tree

A pattern is walked name by name, and each of the patterns between its slashes is held against the
names in a directory, or looked up if it has no wildcards. Either way the walk leads through the
names that match (`reach`, `mem_reach_iff`).

**Theorem (`below_ofNames`).** In a well-formed tree, walking plain patterns from a directory lists
the paths of all entries that the patterns lead to from there.
-/

namespace Rulebook.FileTree

open Glob.Walk (Part isMatch literalName?)

/-- The names that patterns lead to from an entry, pattern by pattern. -/
def reach : FileEntry → List (List Part) → List (List String)
  | _, [] => [[]]
  | .file _, _ :: _ => []
  | .dir entries, p :: ps =>
    entries.flatMap fun e => if isMatch p e.1 then (reach e.2 ps).map (e.1 :: ·) else []

theorem reach_dir (entries : List (String × FileEntry)) (p : List Part) (ps : List (List Part)) :
    reach (.dir entries) (p :: ps) =
      entries.flatMap fun e => if isMatch p e.1 then (reach e.2 ps).map (e.1 :: ·) else [] := rfl

theorem mem_reach_iff {e : FileEntry} (h : e.WellFormed) {ps : List (List Part)}
    {names : List String} :
    names ∈ reach e ps ↔
      List.Forall₂ (fun p n => isMatch p n = true) ps names ∧ (e.at? names).isSome = true := by
  induction ps generalizing e names with
  | nil =>
    rw [List.forall₂_nil_left_iff]
    constructor
    · intro hmem
      cases List.mem_singleton.1 hmem
      exact ⟨rfl, by rw [FileEntry.at?_nil]; rfl⟩
    · rintro ⟨rfl, -⟩
      exact List.mem_singleton_self _
  | cons p ps ih =>
    cases h with
    | file content =>
      refine iff_of_false List.not_mem_nil ?_
      rintro ⟨_ | ⟨_, _⟩, hsome⟩
      cases hsome
    | @dir entries hnodup hnames hbelow =>
      have hunfold : names ∈ reach (.dir entries) (p :: ps) ↔
          ∃ e ∈ entries, isMatch p e.1 = true ∧ ∃ more ∈ reach e.2 ps, e.1 :: more = names := by
        rw [reach_dir, List.mem_flatMap]
        refine exists_congr fun e => and_congr_right fun _ => ?_
        by_cases hmatch : isMatch p e.1 = true
        · simp [hmatch]
        · simp [hmatch]
      rw [hunfold]
      constructor
      · rintro ⟨⟨n, e⟩, he, hmatch, more, hmore, rfl⟩
        obtain ⟨hall, hsome⟩ := (ih (hbelow _ he)).1 hmore
        refine ⟨.cons hmatch hall, ?_⟩
        show ((FileEntry.find? entries n).bind (·.at? more)).isSome = true
        rw [(FileEntry.find?_eq_some_iff hnodup).2 he]
        exact hsome
      · rintro ⟨hall, hsome⟩
        cases hall with
        | @cons _ n _ more hmatch hall =>
          obtain ⟨e', he'⟩ := Option.isSome_iff_exists.1 hsome
          obtain ⟨e, he, hat⟩ := Option.bind_eq_some_iff.1 he'
          have hmem := (FileEntry.find?_eq_some_iff hnodup).1 he
          refine ⟨(n, e), hmem, hmatch, more, (ih (hbelow _ hmem)).2 ⟨hall, ?_⟩, rfl⟩
          rw [hat]
          rfl

theorem nodup_reach {e : FileEntry} (h : e.WellFormed) (ps : List (List Part)) :
    (reach e ps).Nodup := by
  induction ps generalizing e with
  | nil => exact List.nodup_singleton _
  | cons p ps ih =>
    cases h with
    | file content => exact List.nodup_nil
    | @dir entries hnodup hnames hbelow =>
      rw [reach_dir, List.nodup_flatMap]
      refine ⟨fun e he => ?_, ?_⟩
      · split
        · exact (ih (hbelow e he)).map fun a b heq => (List.cons.inj heq).2
        · exact List.nodup_nil
      · refine (List.pairwise_map.1 hnodup).imp fun {a b} hne => ?_
        show List.Disjoint (if _ then _ else _) (if _ then _ else _)
        intro names ha hb
        split at ha
        · split at hb
          · obtain ⟨_, -, rfl⟩ := List.mem_map.1 ha
            obtain ⟨_, -, heq⟩ := List.mem_map.1 hb
            exact hne (List.cons.inj heq).1.symm
          · exact absurd hb List.not_mem_nil
        · exact absurd ha List.not_mem_nil

/-! ## Walking -/

/-- A pattern for a name that is plain: it does not stand for directories, without wildcards it is a
proper name, and it stands for no special entry. -/
structure IsPlain (p : List Part) : Prop where
  not_recursive : isRecursive p = false
  literal : ∀ name, literalName? p = some name → Path.IsName name
  special : p.head? = some (.literal '.') → isMatch p "." = false ∧ isMatch p ".." = false

theorem literalName?_eq_some {p : List Part} {name : String} (h : literalName? p = some name) :
    p = name.toList.map .literal := by
  unfold literalName? at h
  obtain ⟨cs, hcs, rfl⟩ := Option.map_eq_some_iff.1 h
  rw [String.toList_ofList]
  clear h
  induction p generalizing cs with
  | nil =>
    cases hcs
    rfl
  | cons x p ih =>
    rw [List.mapM_cons] at hcs
    obtain ⟨c, hc, hcs⟩ := Option.bind_eq_some_iff.1 hcs
    obtain ⟨ds, hds, hcs⟩ := Option.bind_eq_some_iff.1 hcs
    cases hcs
    rw [List.map_cons, ← ih ds hds]
    cases x <;> cases hc
    rfl

/-- A pattern without wildcards matches the name that it stands for. -/
theorem isMatch_of_literalName? {p : List Part} {name : String} (h : literalName? p = some name)
    (n : String) : isMatch p n = true ↔ n = name := by
  rw [Glob.Walk.isMatch_iff, literalName?_eq_some h,
    Glob.Walk.listCovers_map_iff fun _ _ => Iff.rfl, String.toList_inj]

theorem named_eq {top : FileEntry} {needDir : Bool} {fuel : Nat} {p : List Part}
    {ps : List (List Part)} {name path : String} :
    named top needDir (fuel + 1) p ps name path =
      if isMatch p name then
        if ps.isEmpty then accept top needDir path else below top needDir fuel ps path
      else [] := by
  rw [named]

theorem visit_eq {top : FileEntry} {needDir : Bool} {fuel : Nat} {p : List Part}
    (h : isRecursive p = false) {ps : List (List Part)} {name path : String} {isDir : Bool} :
    visit top needDir (fuel + 1) p ps name path isDir = named top needDir fuel p ps name path := by
  rw [visit, h, if_neg Bool.false_ne_true]

/-- One entry at most has a given name. -/
theorem flatMap_named {entries : List (String × FileEntry)} (h : (entries.map Prod.fst).Nodup)
    {β : Type} (name : String) (f : FileEntry → List β) :
    (entries.flatMap fun e => if e.1 = name then f e.2 else []) =
      (FileEntry.find? entries name).elim [] f := by
  induction entries with
  | nil => rfl
  | cons e es ih =>
    obtain ⟨hnew, hes⟩ := List.nodup_cons.1 h
    rw [List.flatMap_cons, FileEntry.find?_cons, ih hes]
    by_cases hname : e.1 = name
    · have hnone : FileEntry.find? es name = none := by
        rw [Option.eq_none_iff_forall_ne_some]
        intro x hx
        have hmem := List.mem_map_of_mem (f := Prod.fst) ((FileEntry.find?_eq_some_iff hes).1 hx)
        exact hnew (hname ▸ hmem)
      rw [if_pos hname, if_pos hname, hnone]
      exact List.append_nil _
    · rw [if_neg hname, if_neg hname, List.nil_append]

/-- A pattern without wildcards leads to the entry with its name. -/
theorem reach_of_literalName? {e : FileEntry} (h : e.WellFormed) {p : List Part} {name : String}
    (hliteral : literalName? p = some name) (ps : List (List Part)) :
    reach e (p :: ps) = (e.at? [name]).elim [] fun e' => (reach e' ps).map (name :: ·) := by
  cases h with
  | file content => rfl
  | @dir entries hnodup hnames hbelow =>
    rw [FileEntry.at?_singleton, ← flatMap_named hnodup, reach_dir]
    congr 1
    funext e
    simp only [isMatch_of_literalName? hliteral]
    split
    · next hname => rw [hname]
    · rfl

/-- **Walking leads to what the patterns lead to.** -/
theorem below_ofNames {top : FileEntry} (h : top.WellFormed) (hdir : top.isDir = true)
    {ps : List (List Part)} (hps : ∀ p ∈ ps, IsPlain p) (hne : ps ≠ []) {fuel : Nat}
    (hfuel : 3 * ps.length ≤ fuel) {dir : List String} {e : FileEntry}
    (hat : top.at? dir = some e) :
    below top false fuel ps (Path.ofNames dir) =
      (reach e ps).map fun names => Path.ofNames (dir ++ names) := by
  induction ps generalizing fuel dir e with
  | nil => exact absurd rfl hne
  | cons p ps ih =>
    rw [List.forall_mem_cons] at hps
    -- A name takes three units of fuel at most: it is looked for, visited and named.
    obtain ⟨fuel, rfl⟩ : ∃ f, fuel = f + 3 := ⟨fuel - 3, by rw [List.length_cons] at hfuel; omega⟩
    rw [List.length_cons] at hfuel
    have hgo {f : Nat} (hf : 3 * ps.length ≤ f) {next : List String} {e' : FileEntry}
        (hnext : top.at? next = some e') :
        (if ps.isEmpty then accept top false (Path.ofNames next)
          else below top false f ps (Path.ofNames next)) =
          (reach e' ps).map fun names => Path.ofNames (next ++ names) := by
      cases ps with
      | nil => simp [accept, reach]
      | cons q qs => exact ih hps.2 (List.cons_ne_nil q qs) hf hnext
    obtain ⟨he, hnames⟩ := h.of_at? hat
    have hproper : ∀ n ∈ dir, Path.IsName n := fun n hn => (hnames n hn).1
    have hjoin {n : String} (hn : Path.IsName n) :
        Path.join (Path.ofNames dir) n = Path.ofNames (dir ++ [n]) := by
      have hone : ∀ m ∈ [n], Path.IsName m := List.forall_mem_singleton.2 hn
      simpa using Path.join_ofNames hproper hone (List.cons_ne_nil n [])
    have hlookup {names : List String} (hnames : ∀ n ∈ names, Path.IsName n) :
        lookup top (Path.ofNames (dir ++ names)) = e.at? names := by
      have hall : ∀ n ∈ dir ++ names, Path.IsName n := List.forall_mem_append.2 ⟨hproper, hnames⟩
      rw [lookup_ofNames h hdir hall, FileEntry.at?_append, hat, Option.bind_some]
    have hbelow {names : List String} {e' : FileEntry} (he' : e.at? names = some e') :
        top.at? (dir ++ names) = some e' := by
      rw [FileEntry.at?_append, hat, Option.bind_some, he']
    unfold below
    cases hliteral : literalName? p with
    | some name =>
      have hname := hps.1.literal name hliteral
      have hspecial : (decide (name = ".") || decide (name = "..")) = false := by
        simp [hname.ne_here, hname.ne_up]
      simp only [hjoin hname, hspecial, hlookup (List.forall_mem_singleton.2 hname), Bool.false_and,
        Bool.false_or, Bool.not_false, Bool.true_and]
      rw [reach_of_literalName? he hliteral]
      cases hnext : e.at? [name] with
      | none => rfl
      | some e' =>
        rw [Option.isSome_some, if_pos rfl, hgo (by omega) (hbelow hnext), Option.elim_some,
          List.map_map]
        simp [Function.comp_def]
    | none =>
      have hhere := hlookup (fun _ hn => absurd hn List.not_mem_nil)
      rw [List.append_nil, FileEntry.at?_nil] at hhere
      simp only [hhere]
      cases he with
      | file content => rfl
      | @dir entries hnodup hentries hwell =>
        have hspecials : (if p.head? = some (.literal '.') then
            [".", ".."].filter (isMatch p) else []) = [] := by
          split
          · next hhead =>
            obtain ⟨hone, htwo⟩ := hps.1.special hhead
            simp [hone, htwo]
          · rfl
        simp only [hspecials, List.flatMap_nil, List.append_nil]
        rw [reach_dir, List.map_flatMap]
        refine List.flatMap_congr fun x hx => ?_
        have hx' : (FileEntry.dir entries).at? [x.1] = some x.2 := by
          rw [FileEntry.at?_singleton]
          exact (FileEntry.find?_eq_some_iff hnodup).2 hx
        rw [hjoin (hentries x hx).1, visit_eq hps.1.not_recursive, named_eq]
        split
        · rw [hgo (by omega) (hbelow hx'), List.map_map]
          simp [Function.comp_def]
        · rfl

end Rulebook.FileTree
