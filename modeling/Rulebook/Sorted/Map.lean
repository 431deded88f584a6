/-!
# Maps in the order of their keys

A map is the list of its entries in strictly increasing order of their keys, so that no key occurs
twice and two maps with the same entries are equal. `find?_insert` says what writing does to
reading.
-/

namespace Rulebook

/-- A map as its entries in increasing order of the keys. -/
structure SortedMap (κ α : Type) [LT κ] where
  entries : List (κ × α)
  sorted : entries.Pairwise fun a b => a.1 < b.1

namespace SortedMap

variable {κ α : Type} [LT κ]

instance : EmptyCollection (SortedMap κ α) := ⟨⟨[], .nil⟩⟩

instance : Inhabited (SortedMap κ α) := ⟨∅⟩

instance [DecidableEq κ] [DecidableEq α] : DecidableEq (SortedMap κ α) := fun m n =>
  if h : m.entries = n.entries then
    isTrue (by cases m; cases n; cases h; rfl)
  else isFalse (fun e => h (e ▸ rfl))

@[ext]
theorem ext {m n : SortedMap κ α} (h : m.entries = n.entries) : m = n := by
  cases m; cases n; cases h; rfl

def size (m : SortedMap κ α) : Nat := m.entries.length

def isEmpty (m : SortedMap κ α) : Bool := m.entries.isEmpty

def keys (m : SortedMap κ α) : List κ := m.entries.map Prod.fst

/-- The value of a key. -/
def find? [DecidableEq κ] (m : SortedMap κ α) (k : κ) : Option α :=
  (m.entries.find? fun e => e.1 = k).map Prod.snd

@[simp]
theorem find?_empty [DecidableEq κ] (k : κ) : (∅ : SortedMap κ α).find? k = none := rfl

/-- A key has a value when it is one of the keys. -/
theorem isSome_find?_iff [DecidableEq κ] {m : SortedMap κ α} {k : κ} :
    (m.find? k).isSome = true ↔ k ∈ m.keys := by
  simp only [find?, keys, Option.isSome_map, List.find?_isSome, decide_eq_true_eq, List.mem_map]

theorem nodup_keys [LE κ] [Std.LawfulOrderLT κ] (m : SortedMap κ α) : m.keys.Nodup := by
  refine List.pairwise_map.2 (m.sorted.imp fun {a b} hlt heq => ?_)
  rw [heq] at hlt
  exact Std.lt_irrefl hlt

def contains [DecidableEq κ] (m : SortedMap κ α) (k : κ) : Bool := (m.find? k).isSome

/-- Drops the entries that fail a test. -/
def filter (m : SortedMap κ α) (keep : κ × α → Bool) : SortedMap κ α :=
  ⟨m.entries.filter keep, m.sorted.filter keep⟩

def erase [DecidableEq κ] (m : SortedMap κ α) (k : κ) : SortedMap κ α :=
  m.filter fun e => e.1 ≠ k

theorem mem_keys_of_mem_keys_erase [DecidableEq κ] {m : SortedMap κ α} {k k' : κ}
    (h : k' ∈ (m.erase k).keys) : k' ∈ m.keys :=
  List.map_subset Prod.fst (List.filter_sublist.subset) h

theorem find?_erase [DecidableEq κ] (m : SortedMap κ α) (k k' : κ) :
    (m.erase k).find? k' = if k = k' then none else m.find? k' := by
  unfold find? erase filter
  rw [List.find?_filter]
  split
  · next h =>
    subst h
    simp
  · next h =>
    congr 2
    funext e
    by_cases he : e.1 = k' <;> simp [he, Ne.symm h]

/-- Puts an entry into its place, over an entry with the same key. -/
def insertEntry [DecidableLT κ] (k : κ) (v : α) : List (κ × α) → List (κ × α)
  | [] => [(k, v)]
  | e :: es =>
    if k < e.1 then (k, v) :: e :: es
    else if e.1 < k then e :: insertEntry k v es
    else (k, v) :: es

theorem mem_insertEntry [DecidableLT κ] {k : κ} {v : α} {es : List (κ × α)} {x : κ × α}
    (h : x ∈ insertEntry k v es) : x = (k, v) ∨ x ∈ es := by
  induction es with
  | nil => simpa [insertEntry] using h
  | cons e es ih =>
    unfold insertEntry at h
    split at h
    · simpa using h
    · split at h
      · rcases List.mem_cons.1 h with rfl | h
        · simp
        · rcases ih h with h | h <;> simp [h]
      · rcases List.mem_cons.1 h with rfl | h <;> simp_all

section Order

variable [LE κ] [DecidableLT κ] [Std.IsLinearOrder κ] [Std.LawfulOrderLT κ]

theorem pairwise_insertEntry (k : κ) (v : α) {es : List (κ × α)}
    (h : es.Pairwise fun a b => a.1 < b.1) :
    (insertEntry k v es).Pairwise fun a b => a.1 < b.1 := by
  induction es with
  | nil => simp [insertEntry]
  | cons e es ih =>
    have hes := List.pairwise_cons.1 h
    unfold insertEntry
    split
    · next hk =>
      refine List.pairwise_cons.2 ⟨fun x hx => ?_, h⟩
      rcases List.mem_cons.1 hx with rfl | hx
      · exact hk
      · exact Std.lt_trans hk (hes.1 x hx)
    · next hk =>
      split
      · next hk' =>
        refine List.pairwise_cons.2 ⟨fun x hx => ?_, ih hes.2⟩
        rcases mem_insertEntry hx with rfl | hx
        · exact hk'
        · exact hes.1 x hx
      · next hk' =>
        have hke : k = e.1 := Std.le_antisymm (Std.not_lt.1 hk') (Std.not_lt.1 hk)
        exact List.pairwise_cons.2 ⟨fun x hx => hke ▸ hes.1 x hx, hes.2⟩

/-- Writing over an entry keeps the keys. -/
theorem map_fst_insertEntry (v : α) {k : κ} {es : List (κ × α)}
    (h : es.Pairwise fun a b => a.1 < b.1) (hk : k ∈ es.map Prod.fst) :
    (insertEntry k v es).map Prod.fst = es.map Prod.fst := by
  induction es with
  | nil => cases hk
  | cons e es ih =>
    have hes := List.pairwise_cons.1 h
    unfold insertEntry
    rcases List.mem_cons.1 hk with rfl | hk
    · simp [Std.lt_irrefl]
    · obtain ⟨x, hx, rfl⟩ := List.mem_map.1 hk
      have hlt := hes.1 x hx
      rw [if_neg (Std.not_lt.2 (Std.le_of_lt hlt)), if_pos hlt, List.map_cons, ih hes.2 hk,
        List.map_cons]

def insert (m : SortedMap κ α) (k : κ) (v : α) : SortedMap κ α :=
  ⟨insertEntry k v m.entries, pairwise_insertEntry k v m.sorted⟩

theorem keys_insert_of_mem {m : SortedMap κ α} {k : κ} (v : α) (h : k ∈ m.keys) :
    (m.insert k v).keys = m.keys :=
  map_fst_insertEntry v m.sorted h

/-- The entries of a list; of entries with one key the last counts. -/
def ofList (es : List (κ × α)) : SortedMap κ α :=
  es.foldl (fun m e => m.insert e.1 e.2) ∅

/-- Writes every entry of `n` over `m`. -/
def union (m n : SortedMap κ α) : SortedMap κ α :=
  n.entries.foldl (fun m e => m.insert e.1 e.2) m

variable [DecidableEq κ]

theorem find?_insertEntry (k : κ) (v : α) (es : List (κ × α)) (k' : κ) :
    (insertEntry k v es).find? (fun e => e.1 = k') =
      if k = k' then some (k, v) else es.find? fun e => e.1 = k' := by
  induction es with
  | nil => by_cases h : k = k' <;> simp [insertEntry, h]
  | cons e es ih =>
    unfold insertEntry
    by_cases h : k = k'
    · subst h
      split
      · simp
      · split
        · next hk =>
          have hne : e.1 ≠ k := fun h => Std.lt_irrefl (h ▸ hk)
          simp [ih, hne]
        · simp
    · split
      · simp [h]
      · next hk =>
        split
        · simp [List.find?_cons, ih, h]
        · next hk' =>
          have hke : k = e.1 := Std.le_antisymm (Std.not_lt.1 hk') (Std.not_lt.1 hk)
          have hne : e.1 ≠ k' := hke ▸ h
          simp [h, hne]

theorem find?_insert (m : SortedMap κ α) (k : κ) (v : α) (k' : κ) :
    (m.insert k v).find? k' = if k = k' then some v else m.find? k' := by
  unfold find? insert
  simp only [find?_insertEntry]
  split <;> rfl

theorem mem_keys_insert {m : SortedMap κ α} {k k' : κ} {v : α} :
    k' ∈ (m.insert k v).keys ↔ k = k' ∨ k' ∈ m.keys := by
  rw [← isSome_find?_iff, ← isSome_find?_iff, find?_insert]
  split <;> simp [*]

theorem mem_keys_ofList {es : List (κ × α)} {k : κ} :
    k ∈ (ofList es).keys ↔ k ∈ es.map Prod.fst := by
  have hfold (m : SortedMap κ α) : k ∈ (es.foldl (fun m e => m.insert e.1 e.2) m).keys ↔
      k ∈ es.map Prod.fst ∨ k ∈ m.keys := by
    induction es generalizing m with
    | nil => simp
    | cons e es ih =>
      rw [List.foldl_cons, ih, mem_keys_insert, List.map_cons, List.mem_cons, eq_comm]
      exact or_left_comm.trans or_assoc.symm
  exact (hfold ∅).trans (or_iff_left List.not_mem_nil)

/-- When no two entries have the same key, each of them counts. -/
theorem find?_ofList_eq_some_iff {es : List (κ × α)} (h : (es.map Prod.fst).Nodup) {k : κ}
    {v : α} : (ofList es).find? k = some v ↔ (k, v) ∈ es := by
  have hfold (m : SortedMap κ α) : (es.foldl (fun m e => m.insert e.1 e.2) m).find? k = some v ↔
      (k, v) ∈ es ∨ k ∉ es.map Prod.fst ∧ m.find? k = some v := by
    induction es generalizing m with
    | nil => simp
    | cons e es ih =>
      obtain ⟨hnew, hes⟩ := List.nodup_cons.1 h
      rw [List.foldl_cons, ih hes, find?_insert, List.map_cons, List.mem_cons, List.mem_cons]
      by_cases hk : e.1 = k
      · subst hk
        simp [hnew, Prod.ext_iff, eq_comm, or_comm]
      · have hne : (k, v) ≠ e := fun he => hk (he ▸ rfl)
        simp [hk, Ne.symm hk, hne]
  rw [ofList, hfold]
  simp

/-- When entries with increasing keys are written one after the other, each of them counts. -/
theorem find?_foldl_insert (m : SortedMap κ α) {es : List (κ × α)}
    (h : es.Pairwise fun a b => a.1 < b.1) (k : κ) :
    (es.foldl (fun m e => m.insert e.1 e.2) m).find? k =
      ((es.find? fun e => e.1 = k).map Prod.snd).or (m.find? k) := by
  induction es generalizing m with
  | nil => rfl
  | cons e es ih =>
    obtain ⟨hlt, hes⟩ := List.pairwise_cons.1 h
    rw [List.foldl_cons, ih _ hes, find?_insert, List.find?_cons]
    by_cases hk : e.1 = k
    · -- The key does not come again.
      have hnone : es.find? (fun e => e.1 = k) = none := by
        refine List.find?_eq_none.2 fun x hx => ?_
        rw [decide_eq_true_eq]
        rintro rfl
        exact Std.lt_irrefl (hk ▸ hlt x hx)
      simp [hk, hnone]
    · simp [hk]

theorem find?_eq_some_iff {m : SortedMap κ α} {k : κ} {v : α} :
    m.find? k = some v ↔ (k, v) ∈ m.entries := by
  have hread : (ofList m.entries).find? k = m.find? k := by
    rw [ofList, find?_foldl_insert ∅ m.sorted, find?_empty, Option.or_none]
    rfl
  rw [← hread]
  exact find?_ofList_eq_some_iff m.nodup_keys

/-- Maps with the same values for all keys are equal. -/
theorem eq_of_find? {m n : SortedMap κ α} (h : ∀ k, m.find? k = n.find? k) : m = n := by
  have hnodup (m : SortedMap κ α) : m.entries.Nodup :=
    List.Pairwise.of_map Prod.fst (fun a b hne heq => hne (heq ▸ rfl)) m.nodup_keys
  have hperm : m.entries.Perm n.entries :=
    (List.perm_ext_iff_of_nodup (hnodup m) (hnodup n)).2 fun e => by
      rw [← find?_eq_some_iff, h, find?_eq_some_iff]
  refine ext (List.Perm.eq_of_pairwise (fun a b _ _ hab hba => ?_) m.sorted n.sorted hperm)
  exact absurd hab (Std.not_lt.2 (Std.le_of_lt hba))

/-- The entries of a map, in any order, make up the map. -/
theorem ofList_of_perm {m : SortedMap κ α} {es : List (κ × α)} (h : es.Perm m.entries) :
    ofList es = m := by
  have hnodup : (es.map Prod.fst).Nodup := (h.map Prod.fst).nodup_iff.2 m.nodup_keys
  refine eq_of_find? fun k => Option.ext fun v => ?_
  rw [find?_ofList_eq_some_iff hnodup, find?_eq_some_iff, h.mem_iff]

theorem find?_union (m n : SortedMap κ α) (k : κ) :
    (m.union n).find? k = (n.find? k).or (m.find? k) :=
  find?_foldl_insert m n.sorted k

/-- Nothing is left of a map when all of its keys are written over. -/
theorem union_eq_right {m n : SortedMap κ α} (h : ∀ k ∈ m.keys, k ∈ n.keys) : m.union n = n := by
  refine eq_of_find? fun k => ?_
  rw [find?_union]
  cases hk : n.find? k with
  | some v => rfl
  | none =>
    refine Option.not_isSome_iff_eq_none.1 fun hsome => ?_
    have hmem := isSome_find?_iff.2 (h k (isSome_find?_iff.1 hsome))
    rw [hk] at hmem
    cases hmem

theorem find?_ofList_map {β : Type} (m : SortedMap κ α) (f : α → β) (k : κ) :
    (ofList (m.entries.map fun e => (e.1, f e.2))).find? k = (m.find? k).map f := by
  have h : (m.entries.map fun e => (e.1, f e.2)).Pairwise fun a b => a.1 < b.1 :=
    List.pairwise_map.2 m.sorted
  rw [ofList, find?_foldl_insert ∅ h, find?_empty, Option.or_none, List.find?_map, Option.map_map]
  simp only [find?, Option.map_map]
  rfl

end Order

end SortedMap

end Rulebook
