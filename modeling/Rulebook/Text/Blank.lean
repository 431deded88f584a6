/-!
# White space

White space is the Unicode property of that name, which is wider than the ASCII blanks: it holds
the no-break space, the ideographic space and the line and paragraph separators, and not the
zero-width space. Trimming and the test for a blank text use it throughout.
-/

namespace Rulebook.Text

/-- Whether a character has the `White_Space` property. -/
def isBlank (c : Char) : Bool :=
  let n := c.toNat
  (9 ≤ n && n ≤ 13) || n = 0x20 || n = 0x85 || n = 0xA0 || n = 0x1680 ||
  (0x2000 ≤ n && n ≤ 0x200A) || n = 0x2028 || n = 0x2029 || n = 0x202F || n = 0x205F || n = 0x3000

/-- The characters without the leading and the trailing white space. -/
def trimChars (cs : List Char) : List Char :=
  ((cs.dropWhile isBlank).reverse.dropWhile isBlank).reverse

/-- A text without its leading and trailing white space. -/
def trim (s : String) : String := String.ofList (trimChars s.toList)

/-- Whether nothing but white space is in the text. -/
def allBlank (s : String) : Bool := s.toList.all isBlank

/-! ## Trimmed texts -/

/-- There is no white space at either end. -/
structure Trimmed (s : String) : Prop where
  head : ∀ c ∈ s.toList.head?, isBlank c = false
  last : ∀ c ∈ s.toList.getLast?, isBlank c = false

theorem isBlank_of_mem_head?_dropWhile {cs : List Char} {c : Char}
    (h : c ∈ (cs.dropWhile isBlank).head?) : isBlank c = false := by
  have hdrop := List.head?_dropWhile_not isBlank cs
  rwa [Option.mem_def.1 h] at hdrop

theorem dropWhile_isBlank {cs : List Char} (h : ∀ c ∈ cs.head?, isBlank c = false) :
    cs.dropWhile isBlank = cs := by
  cases cs with
  | nil => rfl
  | cons c cs => exact List.dropWhile_cons_of_neg (by simp [h c rfl])

/-- Trimming leaves no white space at either end. -/
theorem trimmed_trim (s : String) : Trimmed (trim s) := by
  have htrim : (trim s).toList = trimChars s.toList := String.toList_ofList
  constructor
  · intro c hc
    have hprefix : trimChars s.toList <+: s.toList.dropWhile isBlank := by
      rw [← List.reverse_suffix, trimChars, List.reverse_reverse]
      exact List.dropWhile_suffix _
    obtain ⟨rest, hrest⟩ := hprefix
    have hmem : c ∈ (s.toList.dropWhile isBlank).head? := by
      rw [htrim] at hc
      rw [← hrest, List.head?_append, Option.mem_def.1 hc]
      rfl
    exact isBlank_of_mem_head?_dropWhile hmem
  · intro c hc
    rw [htrim, trimChars, List.getLast?_reverse] at hc
    exact isBlank_of_mem_head?_dropWhile hc

theorem allBlank_iff {s : String} : allBlank s = true ↔ ∀ c ∈ s.toList, isBlank c = true :=
  List.all_eq_true

/-- A text is what is left of it after trimming, between white space. -/
theorem exists_eq_trim_between (s : String) :
    ∃ before after, allBlank before = true ∧ allBlank after = true ∧
      s = before ++ trim s ++ after := by
  let rest := s.toList.dropWhile isBlank
  let before := String.ofList (s.toList.takeWhile isBlank)
  let after := String.ofList (rest.reverse.takeWhile isBlank).reverse
  have hbefore : allBlank before = true := by
    rw [allBlank, String.toList_ofList]
    exact List.all_takeWhile
  have hafter : allBlank after = true := by
    rw [allBlank, String.toList_ofList, List.all_reverse]
    exact List.all_takeWhile
  have hrest : rest = trimChars s.toList ++ (rest.reverse.takeWhile isBlank).reverse := by
    rw [trimChars, ← List.reverse_append, List.takeWhile_append_dropWhile, List.reverse_reverse]
  have hchars : s.toList = s.toList.takeWhile isBlank ++ rest :=
    List.takeWhile_append_dropWhile.symm
  refine ⟨before, after, hbefore, hafter, String.toList_inj.1 ?_⟩
  rw [String.toList_append, String.toList_append, trim, String.toList_ofList, String.toList_ofList,
    String.toList_ofList, List.append_assoc, ← hrest, ← hchars]

/-- White space around a trimmed text is what trimming takes away. -/
theorem trim_append {before s after : String} (hbefore : allBlank before = true)
    (hafter : allBlank after = true) (h : Trimmed s) : trim (before ++ s ++ after) = s := by
  have hleading : (before ++ s ++ after).toList.dropWhile isBlank =
      (s ++ after).toList.dropWhile isBlank := by
    rw [String.append_assoc, String.toList_append,
      List.dropWhile_append_of_pos (allBlank_iff.1 hbefore)]
  have htrailing : (s ++ after).toList.reverse.dropWhile isBlank = s.toList.reverse := by
    have hreverse : ∀ c ∈ after.toList.reverse, isBlank c = true := by
      simpa using allBlank_iff.1 hafter
    rw [String.toList_append, List.reverse_append, List.dropWhile_append_of_pos hreverse]
    exact dropWhile_isBlank (by simpa using h.last)
  apply String.toList_inj.1
  rw [trim, String.toList_ofList, trimChars, hleading]
  cases hs : s.toList with
  | nil =>
    -- Nothing is left for the second pass: the first takes all of the white space.
    rw [String.toList_append, hs, List.nil_append, ← List.append_nil after.toList,
      List.dropWhile_append_of_pos (allBlank_iff.1 hafter)]
    rfl
  | cons c cs =>
    have hhead : (s ++ after).toList.dropWhile isBlank = (s ++ after).toList := by
      apply dropWhile_isBlank
      intro d hd
      apply h.head d
      rw [String.toList_append, hs] at hd
      rw [hs]
      exact hd
    rw [hhead, htrailing, List.reverse_reverse, hs]

/-- Trimming takes away the white space around a text and nothing else. -/
theorem trim_eq_iff {s e : String} : trim s = e ↔ Trimmed e ∧
    ∃ before after, allBlank before = true ∧ allBlank after = true ∧ s = before ++ e ++ after := by
  constructor
  · intro h
    subst h
    exact ⟨trimmed_trim s, exists_eq_trim_between s⟩
  · intro h
    obtain ⟨he, before, after, hbefore, hafter, rfl⟩ := h
    exact trim_append hbefore hafter he

/-- Trimming changes nothing but white space at the ends. -/
theorem trim_eq_self_iff {s : String} : trim s = s ↔ Trimmed s := by
  constructor
  · intro h
    exact (trim_eq_iff.1 h).1
  · intro h
    exact trim_eq_iff.2 ⟨h, "", "", rfl, rfl, by rw [String.empty_append, String.append_empty]⟩

/-- Nothing is left of blank texts, and of no others. -/
theorem trim_eq_empty_iff {s : String} : trim s = "" ↔ allBlank s = true := by
  constructor
  · intro h
    obtain ⟨-, before, after, hbefore, hafter, rfl⟩ := trim_eq_iff.1 h
    rw [allBlank_iff] at hbefore hafter ⊢
    intro c hc
    rw [String.append_empty, String.toList_append] at hc
    exact (List.mem_append.1 hc).elim (hbefore c) (hafter c)
  · intro h
    have hempty : Trimmed "" := ⟨nofun, nofun⟩
    exact trim_eq_iff.2 ⟨hempty, "", s, rfl, h, by rw [String.append_empty, String.empty_append]⟩

/-- A text that is not blank is not empty. -/
theorem ne_empty_of_allBlank {s : String} (h : allBlank s = false) : s ≠ "" := by
  rintro rfl
  cases h

/-- Without white space around it, a text that is not empty is not blank. -/
theorem Trimmed.allBlank {s : String} (h : Trimmed s) (hne : s ≠ "") :
    Text.allBlank s = false := by
  unfold Text.allBlank
  cases hs : s.toList with
  | nil => exact absurd (String.toList_eq_nil_iff.1 hs) hne
  | cons c cs =>
    rw [List.all_cons, h.head c (by rw [hs]; rfl), Bool.false_and]

end Rulebook.Text
