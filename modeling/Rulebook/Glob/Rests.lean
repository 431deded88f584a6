/-!
# What is left of a text

Matching a pattern part by part works on what can be left of a text after the parts so far. All of
it is ends of one text.
-/

namespace Rulebook.Glob

variable {α : Type}

/-- What can be left when anything is taken off. -/
def suffixes : List α → List (List α)
  | [] => [[]]
  | a :: as => (a :: as) :: suffixes as

theorem mem_suffixes_iff {s t : List α} : t ∈ suffixes s ↔ t <:+ s := by
  induction s with
  | nil => simp [suffixes]
  | cons a as ih => rw [suffixes, List.mem_cons, ih, List.suffix_cons_iff]

/-- Keeps one of the texts of each length; all are ends of one text. -/
def distinct (rests : List (List α)) : List (List α) :=
  let measured := rests.map fun s => (s.length, s)
  let kept := measured.foldr
    (fun s kept => if kept.any fun t => t.1 = s.1 then kept else s :: kept) []
  kept.map fun s => s.2

/-- Keeping one member for each key loses none if the key tells them apart. -/
theorem mem_foldr_keep_iff {κ : Type} [DecidableEq κ] {key : α → κ} {xs : List α}
    (h : ∀ x ∈ xs, ∀ y ∈ xs, key x = key y → x = y) {a : α} :
    a ∈ xs.foldr (fun x kept => if kept.any fun y => key y = key x then kept else x :: kept) [] ↔
      a ∈ xs := by
  induction xs generalizing a with
  | nil => rfl
  | cons x xs ih =>
    have ih {a : α} := ih (a := a) fun y hy z hz =>
      h y (List.mem_cons_of_mem x hy) z (List.mem_cons_of_mem x hz)
    rw [List.foldr_cons, List.mem_cons]
    split
    · next hany =>
      obtain ⟨y, hy, hkey⟩ := List.any_eq_true.1 hany
      have hmem := List.mem_cons_of_mem x (ih.1 hy)
      obtain rfl := h y hmem x (List.mem_cons_self ..) (of_decide_eq_true hkey)
      rw [ih, iff_or_self]
      rintro rfl
      exact ih.1 hy
    · rw [List.mem_cons, ih]

/-- Ends of one text are told apart by their lengths. -/
theorem eq_of_suffixes {s t w : List α} (hs : s <:+ w) (ht : t <:+ w)
    (h : s.length = t.length) : s = t :=
  (List.suffix_of_suffix_length_le hs ht (Nat.le_of_eq h)).eq_of_length h

/-- Of the ends of one text none is lost. -/
theorem mem_distinct_iff {w t : List α} {ss : List (List α)} (h : ∀ s ∈ ss, s <:+ w) :
    t ∈ distinct ss ↔ t ∈ ss := by
  have hkey : ∀ x ∈ ss.map (fun s => (s.length, s)), ∀ y ∈ ss.map (fun s => (s.length, s)),
      x.1 = y.1 → x = y := by
    intro x hx y hy hlength
    obtain ⟨s, hs, rfl⟩ := List.mem_map.1 hx
    obtain ⟨r, hr, rfl⟩ := List.mem_map.1 hy
    obtain rfl := eq_of_suffixes (h s hs) (h r hr) hlength
    rfl
  unfold distinct
  simp only [List.mem_map, mem_foldr_keep_iff hkey]
  constructor
  · rintro ⟨_, ⟨s, hs, rfl⟩, rfl⟩
    exact hs
  · exact fun ht => ⟨_, ⟨t, ht, rfl⟩, rfl⟩

end Rulebook.Glob
