import Rulebook.Check.Order

/-!
# Sort keys

Each order of findings is the order of a key (`le_iff_keyLE`), and keys are ordered linearly. So the
keys of sorted findings come in one sequence, in whatever order the findings are given
(`map_key_sort_of_perm`); only findings that share a key may change places. Sorting itself lets
these stand as they were given (`arranged_sort`).
-/

namespace Rulebook

namespace FindingOrder

/-- What an order looks at: the start of the node, if it counts, and the message. -/
def key : FindingOrder → Finding → UInt32 × String
  | message, f => (0, f.message)
  | position, f => (f.span.start, f.message)

/-- The order of keys: by the first part, and then by the second. -/
def KeyLE (a b : UInt32 × String) : Prop := a.1 < b.1 ∨ a.1 = b.1 ∧ a.2 ≤ b.2

theorem KeyLE.trans {a b c : UInt32 × String} (hab : KeyLE a b) (hbc : KeyLE b c) : KeyLE a c := by
  rcases hab with hab | ⟨hab, hab'⟩ <;> rcases hbc with hbc | ⟨hbc, hbc'⟩
  · exact .inl (UInt32.lt_trans hab hbc)
  · exact .inl (hbc ▸ hab)
  · exact .inl (hab ▸ hbc)
  · exact .inr ⟨hab.trans hbc, String.le_trans hab' hbc'⟩

theorem KeyLE.total (a b : UInt32 × String) : KeyLE a b ∨ KeyLE b a := by
  by_cases h : a.1 = b.1
  · rcases String.le_total a.2 b.2 with hle | hle
    · exact .inl (.inr ⟨h, hle⟩)
    · exact .inr (.inr ⟨h.symm, hle⟩)
  · rcases UInt32.lt_or_lt_of_ne h with hlt | hlt
    · exact .inl (.inl hlt)
    · exact .inr (.inl hlt)

theorem KeyLE.antisymm {a b : UInt32 × String} (hab : KeyLE a b) (hba : KeyLE b a) : a = b := by
  rcases hab with hab | ⟨hab, hab'⟩ <;> rcases hba with hba | ⟨hba, hba'⟩
  · exact absurd hba (UInt32.lt_asymm hab)
  · exact absurd hab (hba ▸ UInt32.lt_irrefl b.1)
  · exact absurd hba (hab ▸ UInt32.lt_irrefl a.1)
  · exact Prod.ext hab (String.le_antisymm hab' hba')

theorem le_iff_keyLE (o : FindingOrder) (a b : Finding) :
    o.le a b = true ↔ KeyLE (o.key a) (o.key b) := by
  cases o <;> simp [le, key, KeyLE]

theorem le_trans (o : FindingOrder) (a b c : Finding) (hab : o.le a b = true)
    (hbc : o.le b c = true) : o.le a c = true := by
  rw [le_iff_keyLE] at *
  exact hab.trans hbc

theorem le_total (o : FindingOrder) (a b : Finding) : (o.le a b || o.le b a) = true := by
  rw [Bool.or_eq_true, le_iff_keyLE, le_iff_keyLE]
  exact KeyLE.total (o.key a) (o.key b)

/-- Sorted findings are sorted by their keys. -/
theorem pairwise_map_key_sort (o : FindingOrder) (fs : List Finding) :
    ((o.sort fs).map o.key).Pairwise KeyLE := by
  rw [List.pairwise_map]
  have h : (fs.mergeSort o.le).Pairwise fun a b => o.le a b = true :=
    List.pairwise_mergeSort o.le_trans o.le_total fs
  exact h.imp (le_iff_keyLE o _ _).1

theorem sort_perm (o : FindingOrder) (fs : List Finding) : (o.sort fs).Perm fs :=
  List.mergeSort_perm fs o.le

/-- **One sequence of keys.** Findings given in any order sort to the same sequence of keys. -/
theorem map_key_sort_of_perm (o : FindingOrder) {fs gs : List Finding} (h : fs.Perm gs) :
    (o.sort fs).map o.key = (o.sort gs).map o.key := by
  have hperm : ((o.sort fs).map o.key).Perm ((o.sort gs).map o.key) :=
    ((o.sort_perm fs).trans (h.trans (o.sort_perm gs).symm)).map o.key
  refine List.Perm.eq_of_pairwise (fun a b _ _ => KeyLE.antisymm) ?_ ?_ hperm
  · exact pairwise_map_key_sort o fs
  · exact pairwise_map_key_sort o gs

/-- The same findings in order, those with one key as they were given. -/
structure Arranged (o : FindingOrder) (given arranged : List Finding) : Prop where
  perm : arranged.Perm given
  sorted : (arranged.map o.key).Pairwise KeyLE
  stable : ∀ k, arranged.filter (o.key · = k) = given.filter (o.key · = k)

/-- **Sorting is stable.** Findings with one key are in order however they are given, and sorting
keeps the places of those that are in order already. -/
theorem arranged_sort (o : FindingOrder) (fs : List Finding) : o.Arranged fs (o.sort fs) where
  perm := o.sort_perm fs
  sorted := pairwise_map_key_sort o fs
  stable k := by
    have hordered : (fs.filter (o.key · = k)).Pairwise fun a b => o.le a b = true := by
      refine List.pairwise_filter.2 (List.pairwise_of_forall fun a b ha hb => ?_)
      rw [le_iff_keyLE, of_decide_eq_true ha, of_decide_eq_true hb]
      exact (KeyLE.total k k).elim id id
    have hsub : (fs.filter (o.key · = k)).Sublist (o.sort fs) :=
      List.sublist_mergeSort o.le_trans o.le_total hordered List.filter_sublist
    have hsub' := hsub.filter (o.key · = k)
    rw [List.filter_filter] at hsub'
    simp only [Bool.and_self] at hsub'
    exact (hsub'.eq_of_length ((o.sort_perm fs).symm.filter _).length_eq).symm

end FindingOrder

end Rulebook
