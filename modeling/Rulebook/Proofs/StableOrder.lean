import Rulebook.Proofs.ByteOrder
import Rulebook.Proofs.SortKeys
import Mathlib.Data.List.Nodup

/-!
# What the order of findings depends on

**Theorem (`sort_determined`).** Sorted findings are the one list that has the given findings, has
them in order, and has those with the same key as they were given. So what comes out depends on what
is given only through its parts, where a part is what is given with one key.

A list in order is determined by its parts (`eq_of_parts`): its first finding has the least key of
all, so of two lists with the same parts the first findings have one key, and are the first of the
part with that key. Sorting keeps the parts (`arranged_sort`), which gives the rest.
-/

namespace Rulebook.FindingOrder

variable (o : FindingOrder)

/-- Whether a finding has to stand before another. Messages are compared byte by byte. -/
def Before : FindingOrder → Finding → Finding → Prop
  | message, a, b => Text.bytes a.message < Text.bytes b.message
  | position, a, b => a.span.start < b.span.start ∨
      a.span.start = b.span.start ∧ Text.bytes a.message < Text.bytes b.message

/-- Of two keys either the first may come first, or the second has to. -/
theorem keyLE_iff_not_before {a b : Finding} : KeyLE (o.key a) (o.key b) ↔ ¬ o.Before b a := by
  have hmessage : a.message ≤ b.message ↔ ¬ Text.bytes b.message < Text.bytes a.message := by
    rw [← Text.lt_iff_bytes_lt]
    exact String.not_lt.symm
  cases o with
  | message =>
    show (0 : UInt32) < 0 ∨ (0 : UInt32) = 0 ∧ a.message ≤ b.message ↔ _
    rw [hmessage]
    simp [Before]
  | position =>
    show a.span.start < b.span.start ∨ a.span.start = b.span.start ∧ a.message ≤ b.message ↔ _
    rw [hmessage]
    unfold Before
    rcases Std.lt_trichotomy a.span.start b.span.start with hlt | heq | hgt
    · have hne : b.span.start ≠ a.span.start := (UInt32.ne_of_lt hlt).symm
      have hnot : ¬ b.span.start < a.span.start := UInt32.lt_asymm hlt
      simp [hlt, hne, hnot]
    · simp [heq]
    · have hne : a.span.start ≠ b.span.start := (UInt32.ne_of_lt hgt).symm
      have hnot : ¬ a.span.start < b.span.start := UInt32.lt_asymm hgt
      simp [hgt, hne, hnot]

theorem pairwise_keyLE_iff {l : List Finding} :
    (l.map o.key).Pairwise KeyLE ↔ l.Pairwise fun a b => ¬ o.Before b a := by
  rw [List.pairwise_map]
  simp only [keyLE_iff_not_before]

/-! ## Parts -/

variable {o}

/-- A finding is in the part with its key. -/
theorem mem_of_parts {l l' : List Finding}
    (hparts : ∀ k, l.filter (o.key · = k) = l'.filter (o.key · = k)) {f : Finding} (hf : f ∈ l) :
    f ∈ l' := by
  have hpart : f ∈ l.filter (o.key · = o.key f) := List.mem_filter.2 ⟨hf, by simp⟩
  rw [hparts] at hpart
  exact (List.mem_filter.1 hpart).1

/-- The first of findings in order has the least key. -/
theorem keyLE_head {a f : Finding} {l : List Finding} (h : ((a :: l).map o.key).Pairwise KeyLE)
    (hf : f ∈ a :: l) : KeyLE (o.key a) (o.key f) := by
  rcases List.mem_cons.1 hf with rfl | hf
  · exact (KeyLE.total _ _).elim id id
  · exact (List.pairwise_cons.1 h).1 _ (List.mem_map_of_mem hf)

/-- **Findings in order are determined by their parts.** -/
theorem eq_of_parts {l l' : List Finding} (h : (l.map o.key).Pairwise KeyLE)
    (h' : (l'.map o.key).Pairwise KeyLE)
    (hparts : ∀ k, l.filter (o.key · = k) = l'.filter (o.key · = k)) : l = l' := by
  induction l generalizing l' with
  | nil =>
    cases l' with
    | nil => rfl
    | cons b l' => exact absurd (mem_of_parts (fun k => (hparts k).symm) List.mem_cons_self) nofun
  | cons a l ih =>
    cases l' with
    | nil => exact absurd (mem_of_parts hparts List.mem_cons_self) nofun
    | cons b l' =>
      have hab : o.key a = o.key b := by
        apply KeyLE.antisymm
        · exact keyLE_head h (mem_of_parts (fun k => (hparts k).symm) List.mem_cons_self)
        · exact keyLE_head h' (mem_of_parts hparts List.mem_cons_self)
      -- Both are the first of the part with their key.
      have hfirst := hparts (o.key a)
      rw [List.filter_cons_of_pos (by simp), List.filter_cons_of_pos (by simp [hab]),
        List.cons.injEq] at hfirst
      obtain ⟨rfl, hrest⟩ := hfirst
      congr 1
      refine ih (List.Pairwise.of_cons h) (List.Pairwise.of_cons h') fun k => ?_
      by_cases hk : o.key a = k
      · exact hk ▸ hrest
      · have hpart := hparts k
        rwa [List.filter_cons_of_neg (by simpa using hk),
          List.filter_cons_of_neg (by simpa using hk)] at hpart

theorem Arranged.eq_sort {fs l : List Finding} (h : o.Arranged fs l) : l = o.sort fs := by
  have hsort := o.arranged_sort fs
  exact eq_of_parts h.sorted hsort.sorted fun k => (h.stable k).trans (hsort.stable k).symm

/-- With different keys, findings that are given in another order come out alike. -/
theorem sort_eq_of_nodup {fs gs : List Finding} (h : fs.Perm gs) (hkeys : (fs.map o.key).Nodup) :
    o.sort fs = o.sort gs := by
  have hperm : (o.sort fs).Perm (o.sort gs) :=
    (o.sort_perm fs).trans (h.trans (o.sort_perm gs).symm)
  refine List.Perm.eq_of_pairwise ?_ (List.pairwise_map.1 (o.arranged_sort fs).sorted)
    (List.pairwise_map.1 (o.arranged_sort gs).sorted) hperm
  intro a b ha hb hab hba
  have ha' : a ∈ fs := (o.sort_perm fs).mem_iff.1 ha
  have hb' : b ∈ fs := h.mem_iff.2 ((o.sort_perm gs).mem_iff.1 hb)
  exact List.inj_on_of_nodup_map hkeys ha' hb' (KeyLE.antisymm hab hba)

/-- **What the order of findings depends on.** Sorting gives the only list that has the findings
that are given, none of them after one that it has to stand before, and those with one key in the
order in which they are given. Sorting again changes nothing. Two lists sort alike just if they have
the same findings with each key in the same order; if all keys are different, in whatever order they
are given. -/
theorem sort_determined (o : FindingOrder) (fs gs : List Finding) :
    (∀ l, (l.Perm fs ∧ (l.Pairwise fun a b => ¬ o.Before b a) ∧
      ∀ k, l.filter (o.key · = k) = fs.filter (o.key · = k)) ↔ l = o.sort fs) ∧
    o.sort (o.sort fs) = o.sort fs ∧
    (o.sort fs = o.sort gs ↔ ∀ k, fs.filter (o.key · = k) = gs.filter (o.key · = k)) ∧
    (fs.Perm gs → (fs.map o.key).Nodup → o.sort fs = o.sort gs) := by
  have hsort := o.arranged_sort fs
  have hsort' := o.arranged_sort gs
  refine ⟨fun l => ?_, ?_, ?_, sort_eq_of_nodup⟩
  · constructor
    · rintro ⟨hperm, hsorted, hstable⟩
      exact Arranged.eq_sort ⟨hperm, (pairwise_keyLE_iff o).2 hsorted, hstable⟩
    · rintro rfl
      exact ⟨hsort.perm, (pairwise_keyLE_iff o).1 hsort.sorted, hsort.stable⟩
  · have hself : o.Arranged (o.sort fs) (o.sort fs) := ⟨.refl _, hsort.sorted, fun _ => rfl⟩
    exact hself.eq_sort.symm
  · constructor
    · intro h k
      rw [← hsort.stable k, h, hsort'.stable k]
    · intro hparts
      refine eq_of_parts hsort.sorted hsort'.sorted fun k => ?_
      rw [hsort.stable k, hparts k, hsort'.stable k]

end Rulebook.FindingOrder
