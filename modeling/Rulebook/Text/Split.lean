import Rulebook.Text.Blank

/-!
# Splitting text

A text with `n` separators splits into `n + 1` pieces, of which any may be empty. Lines end with a
line feed, so that a text that ends with one has no empty line after it. In a list of
entries that are separated by commas, white space around an entry does not count, and neither do
entries without content.
-/

namespace Rulebook.Text

/-- The pieces between separators. -/
def split (separator : Char) : List Char → List (List Char)
  | [] => [[]]
  | c :: cs =>
    match split separator cs with
    | [] => [[c]]
    | s :: ss => if c = separator then [] :: s :: ss else (c :: s) :: ss

theorem split_ne_nil (separator : Char) (cs : List Char) : split separator cs ≠ [] := by
  cases cs with
  | nil => simp [split]
  | cons c cs =>
    simp only [split]
    split
    · simp
    · split <;> simp

theorem split_cons_self (separator : Char) (cs : List Char) :
    split separator (separator :: cs) = [] :: split separator cs := by
  simp only [split]
  split
  · next h => exact absurd h (split_ne_nil separator cs)
  · next h => rw [if_pos trivial, h]

theorem split_of_not_mem {separator : Char} {cs : List Char} (h : separator ∉ cs) :
    split separator cs = [cs] := by
  induction cs with
  | nil => rfl
  | cons c cs ih =>
    simp only [List.mem_cons, not_or] at h
    obtain ⟨hne, hcs⟩ := h
    simp only [split, ih hcs, if_neg (Ne.symm hne)]

/-- Texts that are joined by a separator split on their own. -/
theorem split_append_separator (separator : Char) (cs rest : List Char) :
    split separator (cs ++ separator :: rest) = split separator cs ++ split separator rest := by
  induction cs with
  | nil => exact split_cons_self separator rest
  | cons c cs ih =>
    cases hcs : split separator cs with
    | nil => exact absurd hcs (split_ne_nil separator cs)
    | cons s ss =>
      rw [hcs, List.cons_append] at ih
      rw [List.cons_append]
      simp only [split, ih, hcs]
      split <;> rfl

/-- A piece ends at the first separator. -/
theorem split_append_cons {separator : Char} {cs : List Char} (h : separator ∉ cs)
    (rest : List Char) :
    split separator (cs ++ separator :: rest) = cs :: split separator rest := by
  rw [split_append_separator, split_of_not_mem h, List.singleton_append]

/-- Pieces that are joined by separators are found again. -/
theorem split_intercalate {separator : Char} {pieces : List (List Char)} (hne : pieces ≠ [])
    (h : ∀ p ∈ pieces, separator ∉ p) :
    split separator ([separator].intercalate pieces) = pieces := by
  induction pieces with
  | nil => exact absurd rfl hne
  | cons p ps ih =>
    have hp := h p (List.mem_cons_self ..)
    cases ps with
    | nil =>
      rw [List.intercalate_singleton]
      exact split_of_not_mem hp
    | cons q qs =>
      rw [List.intercalate_cons_cons, List.append_assoc, List.singleton_append,
        split_append_cons hp, ih (by simp) fun r hr => h r (List.mem_cons_of_mem p hr)]

/-- Joining the pieces gives the text back. -/
theorem intercalate_split (separator : Char) (cs : List Char) :
    [separator].intercalate (split separator cs) = cs := by
  induction cs with
  | nil => rfl
  | cons c cs ih =>
    by_cases hc : c = separator
    · subst hc
      obtain ⟨s, ss, hss⟩ := List.exists_cons_of_ne_nil (split_ne_nil c cs)
      rw [hss] at ih
      rw [split_cons_self, hss, List.intercalate_cons_cons, ih]
      rfl
    · cases hss : split separator cs with
      | nil => exact absurd hss (split_ne_nil separator cs)
      | cons s ss =>
        rw [hss] at ih
        simp only [split, hss, if_neg hc]
        cases ss with
        | nil => simpa using ih
        | cons t ss =>
          rw [List.intercalate_cons_cons] at ih ⊢
          rw [← ih]
          rfl

theorem not_mem_of_mem_split {separator : Char} {cs piece : List Char}
    (h : piece ∈ split separator cs) : separator ∉ piece := by
  induction cs generalizing piece with
  | nil =>
    cases List.mem_singleton.1 h
    exact List.not_mem_nil
  | cons c cs ih =>
    by_cases hc : c = separator
    · rw [hc, split_cons_self] at h
      rcases List.mem_cons.1 h with rfl | h
      · exact List.not_mem_nil
      · exact ih h
    · simp only [split, if_neg hc] at h
      cases hrest : split separator cs with
      | nil => exact absurd hrest (split_ne_nil separator cs)
      | cons s ss =>
        rw [hrest] at h ih
        rcases List.mem_cons.1 h with rfl | h
        · have hs := ih (List.mem_cons_self ..)
          simp [hs, Ne.symm hc]
        · exact ih (List.mem_cons_of_mem s h)

/-- A line without the carriage return that ends it. -/
def dropReturn (line : List Char) : List Char :=
  if line.getLast? = some '\r' then line.dropLast else line

/-- The lines of a text. A line ends with a line feed, in front of which a carriage return does not
count. The text after the last line feed is a line if there is any. -/
def lines (s : String) : List String :=
  let pieces := split '\n' s.toList
  let ended := pieces.dropLast.map dropReturn
  let last := pieces.getLast?.filter fun l => !l.isEmpty
  (ended ++ last.toList).map String.ofList

/-- The entries of a list that is separated by commas. -/
def entries (s : String) : List String :=
  ((split ',' s.toList).map fun e => String.ofList (trimChars e)).filter (· ≠ "")

end Rulebook.Text
