import Rulebook.Proofs.Names

/-!
# The order of paths

Paths are ordered by their steps (`Path.Before`), names by what they are as texts. So the paths that
lead through names from one place come in the order of the lists of names: from the top
(`before_ofNames`) and from any directory (`before_intercalate`). Paths that are in order are
determined by which paths they are (`eq_of_before`), and sorting puts paths in order
(`before_sort`).
-/

namespace Rulebook

theorem Component.le_antisymm {a b : Component} (hab : a.le b = true) (hba : b.le a = true) :
    a = b := by
  cases a <;> cases b <;> simp [Component.le, Component.rank] at hab hba ⊢
  exact String.le_antisymm hab hba

theorem Component.le_total (a b : Component) : a.le b = true ∨ b.le a = true := by
  cases a <;> cases b <;> simp [Component.le, Component.rank]
  exact String.le_total _ _

theorem Component.le_trans {a b c : Component} (hab : a.le b = true) (hbc : b.le c = true) :
    a.le c = true := by
  cases a <;> cases b <;> cases c <;> simp [Component.le, Component.rank] at hab hbc ⊢
  exact String.le_trans hab hbc

namespace Path

/-- One path comes before another one, by their components. -/
def Before (p q : String) : Prop :=
  le (components p) (components q) = true ∧ components p ≠ components q

instance (p q : String) : Decidable (Before p q) := inferInstanceAs (Decidable (_ ∧ _))

theorem filterMap_step?_of_isName {names : List String} (h : ∀ n ∈ names, IsName n) :
    names.filterMap step? = names.map .name := by
  induction names with
  | nil => rfl
  | cons n names ih =>
    have hn := h n (List.mem_cons_self ..)
    have hstep : step? n = some (.name n) := by
      simp [step?, hn.ne_empty, hn.ne_here, hn.ne_up]
    rw [List.filterMap_cons_some hstep, ih fun m hm => h m (List.mem_cons_of_mem n hm),
      List.map_cons]

/-- The steps that a path takes are the names that it is made of. -/
theorem filterMap_segments {names : List String} (h : ∀ n ∈ names, IsName n) :
    (segments ("/".intercalate names)).filterMap step? = names.map .name := by
  rw [segments_intercalate h]
  split
  · next hnil => rw [hnil]; rfl
  · exact filterMap_step?_of_isName h

theorem components_intercalate {names : List String} (h : ∀ n ∈ names, IsName n) :
    components ("/".intercalate names) = names.map .name := by
  have hhead : (segments ("/".intercalate names)).head? ≠ some "." := by
    rw [segments_intercalate h]
    cases names with
    | nil => simp
    | cons n names => simpa using (h n (List.mem_cons_self ..)).ne_here
  unfold components
  rw [isAbsolute_intercalate h, filterMap_segments h, if_neg Bool.false_ne_true, if_neg hhead]

theorem components_ofNames {names : List String} (h : ∀ n ∈ names, IsName n) :
    components (ofNames names) = .root :: names.map .name := by
  unfold components
  rw [isAbsolute_ofNames, if_pos rfl, segments_ofNames, List.filterMap_cons_none (by rfl),
    filterMap_segments h]

theorem map_name_inj {a b : List String} : a.map Component.name = b.map Component.name ↔ a = b :=
  List.map_inj_right fun _ _ h => Component.name.inj h

/-- Names that come before others are steps that come before others. -/
theorem le_map_name {a b : List String} (h : a < b) :
    le (a.map .name) (b.map .name) = true := by
  induction a generalizing b with
  | nil => rfl
  | cons x a ih =>
    cases b with
    | nil => exact absurd h (List.not_lt_nil _)
    | cons y b =>
      rw [List.map_cons, List.map_cons]
      unfold le
      rcases List.cons_lt_cons_iff.1 h with hlt | ⟨rfl, hlt⟩
      · have hne : Component.name x ≠ .name y :=
          fun heq => Std.lt_irrefl (Component.name.inj heq ▸ hlt)
        rw [if_neg hne]
        exact decide_eq_true (Std.le_of_lt hlt)
      · rw [if_pos rfl]
        exact ih hlt

theorem before_intercalate {a b : List String} (ha : ∀ n ∈ a, IsName n) (hb : ∀ n ∈ b, IsName n)
    (h : a < b) : Before ("/".intercalate a) ("/".intercalate b) := by
  unfold Before
  rw [components_intercalate ha, components_intercalate hb]
  exact ⟨le_map_name h, fun heq => List.lt_irrefl a (map_name_inj.1 heq ▸ h)⟩

theorem before_ofNames {a b : List String} (ha : ∀ n ∈ a, IsName n) (hb : ∀ n ∈ b, IsName n)
    (h : a < b) : Before (ofNames a) (ofNames b) := by
  unfold Before
  rw [components_ofNames ha, components_ofNames hb]
  unfold le
  rw [if_pos rfl]
  refine ⟨le_map_name h, fun heq => ?_⟩
  exact List.lt_irrefl a (map_name_inj.1 (List.cons.inj heq).2 ▸ h)

theorem le_antisymm {a b : List Component} (hab : le a b = true) (hba : le b a = true) : a = b := by
  induction a generalizing b with
  | nil =>
    cases b with
    | nil => rfl
    | cons d b => cases hba
  | cons c a ih =>
    cases b with
    | nil => cases hab
    | cons d b =>
      unfold le at hab hba
      by_cases h : c = d
      · subst h
        rw [if_pos rfl] at hab hba
        rw [ih hab hba]
      · rw [if_neg h] at hab
        rw [if_neg (Ne.symm h)] at hba
        exact absurd (Component.le_antisymm hab hba) h

/-- Paths in their order are given by which paths they are. -/
theorem eq_of_before {ps qs : List String} (hps : ps.Pairwise Before) (hqs : qs.Pairwise Before)
    (h : ∀ p, p ∈ ps ↔ p ∈ qs) : ps = qs := by
  have hne {p q : String} (hpq : Before p q) : p ≠ q := fun heq => hpq.2 (congrArg components heq)
  have hperm : ps.Perm qs :=
    (List.perm_ext_iff_of_nodup (hps.imp hne) (hqs.imp hne)).2 h
  refine List.Perm.eq_of_pairwise (fun p q _ _ hpq hqp => ?_) hps hqs hperm
  exact absurd (le_antisymm hpq.1 hqp.1) hpq.2

/-! ## Sorting -/

theorem le_total (a b : List Component) : le a b = true ∨ le b a = true := by
  induction a generalizing b with
  | nil => exact .inl rfl
  | cons c a ih =>
    cases b with
    | nil => exact .inr rfl
    | cons d b =>
      unfold le
      by_cases h : c = d
      · rw [if_pos h, if_pos h.symm]
        exact ih b
      · rw [if_neg h, if_neg (Ne.symm h)]
        exact c.le_total d

theorem le_trans {a b c : List Component} (hab : le a b = true) (hbc : le b c = true) :
    le a c = true := by
  induction a generalizing b c with
  | nil => rfl
  | cons x a ih =>
    cases b with
    | nil => cases hab
    | cons y b =>
      cases c with
      | nil => cases hbc
      | cons z c =>
        unfold le at hab hbc ⊢
        by_cases hxy : x = y
        · subst hxy
          rw [if_pos rfl] at hab
          by_cases hxz : x = z
          · rw [if_pos hxz] at hbc ⊢
            exact ih hab hbc
          · rw [if_neg hxz] at hbc ⊢
            exact hbc
        · rw [if_neg hxy] at hab
          by_cases hyz : y = z
          · subst hyz
            rw [if_neg hxy]
            exact hab
          · rw [if_neg hyz] at hbc
            by_cases hxz : x = z
            · subst hxz
              exact absurd (Component.le_antisymm hab hbc) hxy
            · rw [if_neg hxz]
              exact Component.le_trans hab hbc

theorem sort_perm (paths : List String) : (sort paths).Perm paths := by
  unfold sort
  have hperm := (List.mergeSort_perm (paths.map fun p => (components p, p))
    fun a b => le a.1 b.1).map Prod.snd
  rw [List.map_map] at hperm
  exact hperm.trans (.of_eq (List.map_id paths))

/-- **Sorting puts paths in order,** if no two of them take the same steps. -/
theorem before_sort {paths : List String} (h : (paths.map components).Nodup) :
    (sort paths).Pairwise Before := by
  let keyed := (paths.map fun p => (components p, p)).mergeSort fun a b => le a.1 b.1
  have hperm : keyed.Perm (paths.map fun p => (components p, p)) := List.mergeSort_perm _ _
  have hsorted : keyed.Pairwise fun a b => le a.1 b.1 = true := by
    have htrans (a b c : List Component × String) (hab : le a.1 b.1 = true)
        (hbc : le b.1 c.1 = true) : le a.1 c.1 = true := le_trans hab hbc
    have htotal (a b : List Component × String) : (le a.1 b.1 || le b.1 a.1) = true := by
      rw [Bool.or_eq_true]
      exact le_total a.1 b.1
    exact List.pairwise_mergeSort htrans htotal _
  -- Where no two are the same, what comes before also differs.
  have hkeys : (keyed.map Prod.fst).Nodup := by
    have hfst := hperm.map Prod.fst
    rw [List.map_map] at hfst
    exact hfst.nodup_iff.2 h
  have hmem : ∀ a ∈ keyed, a.1 = components a.2 := by
    intro a ha
    obtain ⟨p, -, rfl⟩ := List.mem_map.1 (hperm.mem_iff.1 ha)
    rfl
  refine List.pairwise_map.2 ((hsorted.and (List.pairwise_map.1 hkeys)).imp_of_mem ?_)
  rintro a b ha hb ⟨hle, hne⟩
  unfold Before
  rw [← hmem a ha, ← hmem b hb]
  exact ⟨hle, hne⟩

/-- What is in order is what sorting gives. -/
theorem sort_eq {paths sorted : List String} (h : sorted.Pairwise Before)
    (hperm : sorted.Perm paths) : sort paths = sorted := by
  have hsorted : (sorted.map components).Nodup := List.pairwise_map.2 (h.imp And.right)
  have hpaths := (hperm.map components).nodup_iff.1 hsorted
  exact eq_of_before (before_sort hpaths) h fun p =>
    (sort_perm paths).mem_iff.trans hperm.mem_iff.symm

end Path

end Rulebook
