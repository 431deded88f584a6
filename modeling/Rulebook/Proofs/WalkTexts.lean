import Rulebook.Glob.Walk
import Rulebook.Proofs.PatternTexts
import Mathlib.Data.List.Chain

/-!
# What patterns for names mean

Every part of a pattern for a name stands for a set of texts, and parts in a row stand for texts of
theirs in a row.

**Theorem (`isMatch_iff`).** A pattern matches a name exactly if the name is one that the pattern
stands for.

**Theorem (`parse_behind`).** A text that is escaped and followed by a simple pattern is read as
parts that stand for the characters of the text, followed by one part for each character of the
pattern.
-/

namespace Rulebook.Glob

/-- A pattern without classes, groups, escapes and two stars in a row. -/
structure IsSimple (cs : List Char) : Prop where
  plain : ∀ c ∈ cs, c ∉ ['[', ']', '{', '}', '\\']
  stars : cs.IsChain fun c d => c = '*' → d ≠ '*'

instance (cs : List Char) : Decidable (IsSimple cs) :=
  have := List.decidableBAll (fun c => c ∉ ['[', ']', '{', '}', '\\']) cs
  decidable_of_iff
    ((∀ c ∈ cs, c ∉ ['[', ']', '{', '}', '\\']) ∧ cs.IsChain fun c d => c = '*' → d ≠ '*')
    ⟨fun h => ⟨h.1, h.2⟩, fun h => ⟨h.plain, h.stars⟩⟩

theorem isSimple_nil : IsSimple [] := ⟨fun _ h => absurd h List.not_mem_nil, .nil⟩

theorem IsSimple.of_infix {cs ds : List Char} (h : IsSimple cs) (hds : ds <:+: cs) : IsSimple ds :=
  ⟨fun c hc => h.plain c (hds.subset hc), h.stars.infix hds⟩

theorem IsSimple.behind_slash {cs : List Char} (h : IsSimple cs) : IsSimple ('/' :: cs) where
  plain := List.forall_mem_cons.2 ⟨by decide, h.plain⟩
  stars := List.isChain_cons.2 ⟨fun _ _ hslash => absurd hslash (by decide), h.stars⟩

/-- No star comes after a star. -/
theorem IsSimple.head?_ne {c : Char} {cs : List Char} (h : IsSimple (c :: cs)) (hc : c = '*') :
    cs.head? ≠ some '*' := by
  intro hhead
  obtain ⟨rest, rfl⟩ := List.head?_eq_some_iff.1 hhead
  exact h.stars.rel hc rfl

namespace Walk

/-! ## Matching -/

/-- The texts that a part stands for. -/
def Part.Covers : Part → List Char → Prop
  | .literal c, u => u = [c]
  | .any, u => ∃ d, u = [d]
  | .star, _ => True
  | .doubleStar, _ => True
  | .class negated ranges, u =>
    ∃ d, ((ranges.any fun r => r.1 ≤ d && d ≤ r.2) != negated) = true ∧ u = [d]

/-- The texts of parts in a row. -/
def ListCovers : List Part → List Char → Prop
  | [], u => u = []
  | p :: ps, u => ∃ v w, u = v ++ w ∧ p.Covers v ∧ ListCovers ps w

theorem listCovers_cons {p : Part} {ps : List Part} {u : List Char} :
    ListCovers (p :: ps) u ↔ ∃ v w, u = v ++ w ∧ p.Covers v ∧ ListCovers ps w := Iff.rfl

/-- What can be left of a name after a part. -/
def Part.ends : Part → List Char → List (List Char)
  | .star => suffixes
  | .doubleStar => suffixes
  | p => p.rests

theorem listRests_cons (p : Part) (ps : List Part) (ss : List (List Char)) :
    listRests (p :: ps) ss = listRests ps (distinct (ss.flatMap p.ends)) := by
  cases p <;> rfl

/-- **What is left after a part** is what follows a text of it. -/
theorem Part.mem_ends_iff (p : Part) {s t : List Char} :
    t ∈ p.ends s ↔ ∃ u, s = u ++ t ∧ p.Covers u := by
  have hsuffix : t ∈ suffixes s ↔ ∃ u, s = u ++ t ∧ True := by
    rw [mem_suffixes_iff]
    simp only [and_true]
    exact exists_congr fun u => eq_comm
  cases p with
  | star => exact hsuffix
  | doubleStar => exact hsuffix
  | literal c =>
    cases s with
    | nil => simp [ends, rests, Covers]
    | cons d ds =>
      by_cases hd : c = d <;> simp [ends, rests, Covers, hd, eq_comm]
  | any =>
    cases s with
    | nil => simp [ends, rests, Covers]
    | cons d ds =>
      have hany : (∃ u, d :: ds = u ++ t ∧ ∃ e, True ∧ u = [e]) ↔ True ∧ t = ds := exists_single_iff
      simp only [true_and] at hany
      simp only [ends, rests, Covers, List.mem_singleton, hany]
  | «class» negated ranges =>
    cases s with
    | nil => simp [ends, rests, Covers]
    | cons d ds =>
      simp only [Covers, exists_single_iff]
      by_cases hd : ((ranges.any fun r => r.1 ≤ d && d ≤ r.2) != negated) = true <;>
        simp only [ends, rests, hd] <;> simp

theorem mem_listRests_iff (ps : List Part) {w t : List Char} {ss : List (List Char)}
    (h : ∀ s ∈ ss, s <:+ w) :
    t ∈ listRests ps ss ↔ ∃ s ∈ ss, ∃ u, s = u ++ t ∧ ListCovers ps u := by
  induction ps generalizing ss with
  | nil => simp [listRests, ListCovers]
  | cons p ps ih =>
    have hends : ∀ r ∈ ss.flatMap p.ends, r <:+ w := by
      intro r hr
      obtain ⟨s, hs, hr⟩ := List.mem_flatMap.1 hr
      obtain ⟨u, rfl, -⟩ := p.mem_ends_iff.1 hr
      exact (List.suffix_append u r).trans (h _ hs)
    have hdistinct (r : List Char) := mem_distinct_iff (t := r) hends
    rw [listRests_cons, ih fun r hr => hends r ((hdistinct r).1 hr)]
    simp only [listCovers_cons]
    constructor
    · rintro ⟨r, hr, v, rfl, hv⟩
      obtain ⟨s, hs, hr⟩ := List.mem_flatMap.1 ((hdistinct _).1 hr)
      obtain ⟨u, rfl, hu⟩ := p.mem_ends_iff.1 hr
      exact ⟨_, hs, u ++ v, (List.append_assoc u v t).symm, u, v, rfl, hu, hv⟩
    · rintro ⟨s, hs, _, rfl, u, v, rfl, hu, hv⟩
      refine ⟨v ++ t, (hdistinct _).2 (List.mem_flatMap.2 ⟨_, hs, ?_⟩), v, rfl, hv⟩
      exact p.mem_ends_iff.2 ⟨u, List.append_assoc u v t, hu⟩

/-- **Matching decides meaning.** -/
theorem isMatch_iff {parts : List Part} {name : String} :
    isMatch parts name = true ↔ ListCovers parts name.toList := by
  unfold isMatch
  rw [List.any_eq_true]
  simp only [List.isEmpty_iff]
  rw [exists_eq_right, mem_listRests_iff parts (w := name.toList)
    fun r hr => List.mem_singleton.1 hr ▸ List.suffix_refl _]
  simp

/-! ## Reading -/

/-- The part that a character outside of a class is read as. -/
def wildPart (c : Char) : Part :=
  if c = '?' then .any else if c = '*' then .star else .literal c

theorem readFrom_wild {c : Char} {cs : List Char} (hbracket : c ≠ '[')
    (hstars : c = '*' → cs.head? ≠ some '*') (fuel : Nat) (before : Option Char) :
    readFrom (fuel + 1) before (c :: cs) =
      (readFrom fuel (some c) cs).map (wildPart c :: ·) := by
  by_cases hany : c = '?'
  · subst hany
    rfl
  · by_cases hstar : c = '*'
    · subst hstar
      cases cs with
      | nil => rfl
      | cons d ds =>
        have hd : d ≠ '*' := by simpa using hstars
        simp [readFrom, hd, wildPart]
        rfl
    · have hself : wildPart c = .literal c := by
        rw [wildPart, if_neg hany, if_neg hstar]
      rw [hself]
      conv => lhs; unfold readFrom
      split <;> first | contradiction | rfl

theorem readFrom_of_isSimple {cs : List Char} (h : IsSimple cs) {fuel : Nat}
    (hfuel : cs.length < fuel) (before : Option Char) :
    readFrom fuel before cs = .ok (cs.map wildPart) := by
  induction cs generalizing fuel before with
  | nil => cases fuel <;> rfl
  | cons c cs ih =>
    obtain ⟨fuel, rfl⟩ := Nat.exists_eq_add_one_of_ne_zero (Nat.ne_zero_of_lt hfuel)
    have hbracket : c ≠ '[' := by
      rintro rfl
      exact h.plain '[' (List.mem_cons_self ..) (by decide)
    have htail : IsSimple cs := h.of_infix (List.suffix_cons c cs).isInfix
    rw [readFrom_wild hbracket h.head?_ne, ih htail (Nat.lt_of_succ_lt_succ hfuel)]
    rfl

/-- The characters that are put into a class of their own. -/
def bracketed : List Char := ['?', '*', '[', ']']

/-- A character as a pattern for itself. -/
def escapeChar (c : Char) : List Char := if c ∈ bracketed then ['[', c, ']'] else [c]

/-- The part that a character in front of a pattern is read as. -/
def selfPart (c : Char) : Part := if c ∈ bracketed then .class false [(c, c)] else .literal c

theorem toList_escape (text : String) : (escape text).toList = text.toList.flatMap escapeChar := by
  have hbracketed : "?*[]".toList = bracketed := rfl
  unfold escape escapeChar
  rw [String.toList_ofList, hbracketed]
  simp only [List.contains_iff_mem]

/-- Parts that stand for one character each, in a row. -/
theorem listCovers_map_iff {part : Char → Part} (h : ∀ c u, (part c).Covers u ↔ u = [c])
    {text u : List Char} : ListCovers (text.map part) u ↔ u = text := by
  induction text generalizing u with
  | nil => rfl
  | cons c text ih =>
    simp only [List.map_cons, listCovers_cons, ih, h]
    constructor
    · rintro ⟨_, _, rfl, rfl, rfl⟩
      rfl
    · rintro rfl
      exact ⟨[c], text, rfl, rfl, rfl⟩

theorem covers_selfPart_iff (c : Char) (u : List Char) : (selfPart c).Covers u ↔ u = [c] := by
  have hclass (d : Char) :
      (([(c, c)].any fun r => r.1 ≤ d && d ≤ r.2) != false) = true ↔ d = c := by
    simp only [List.any_cons, List.any_nil, Bool.or_false, Bool.bne_false, Bool.and_eq_true,
      decide_eq_true_eq]
    exact ⟨fun h => Char.le_antisymm h.2 h.1, fun h => h ▸ ⟨Char.le_refl _, Char.le_refl _⟩⟩
  unfold selfPart
  split
  · simp only [Part.Covers, hclass, exists_eq_left]
  · exact Iff.rfl

theorem readFrom_bracketed {c : Char} (h : c ∈ bracketed) (fuel : Nat) (before : Option Char)
    (cs : List Char) :
    readFrom (fuel + 1) before ('[' :: c :: ']' :: cs) =
      (readFrom fuel (some ']') cs).map (.class false [(c, c)] :: ·) := by
  simp only [bracketed, List.mem_cons, List.not_mem_nil, or_false] at h
  rcases h with rfl | rfl | rfl | rfl <;> rfl

/-- **A text is read as itself** in front of a simple one. -/
theorem readFrom_escaped {text cs : List Char} (h : IsSimple cs) {fuel : Nat}
    (hfuel : (text.flatMap escapeChar ++ cs).length < fuel) (before : Option Char) :
    readFrom fuel before (text.flatMap escapeChar ++ cs) =
      .ok (text.map selfPart ++ cs.map wildPart) := by
  induction text generalizing fuel before with
  | nil => exact readFrom_of_isSimple h hfuel before
  | cons c text ih =>
    obtain ⟨fuel, rfl⟩ := Nat.exists_eq_add_one_of_ne_zero (Nat.ne_zero_of_lt hfuel)
    rw [List.flatMap_cons, List.append_assoc] at hfuel ⊢
    by_cases hc : c ∈ bracketed
    · have hescape : escapeChar c = ['[', c, ']'] := if_pos hc
      have hself : selfPart c = .class false [(c, c)] := if_pos hc
      rw [hescape] at hfuel ⊢
      show readFrom _ before ('[' :: c :: ']' :: (text.flatMap escapeChar ++ cs)) = _
      rw [readFrom_bracketed hc, ih (by simp at hfuel ⊢; omega), List.map_cons, hself]
      rfl
    · have hescape : escapeChar c = [c] := if_neg hc
      have hlead : c ≠ '?' ∧ c ≠ '*' ∧ c ≠ '[' := by
        simp only [bracketed, List.mem_cons, not_or] at hc
        exact ⟨hc.1, hc.2.1, hc.2.2.1⟩
      have hself : selfPart c = wildPart c := by
        rw [selfPart, if_neg hc, wildPart, if_neg hlead.1, if_neg hlead.2.1]
      rw [hescape] at hfuel ⊢
      show readFrom _ before (c :: (text.flatMap escapeChar ++ cs)) = _
      rw [readFrom_wild hlead.2.2 fun hstar => absurd hstar hlead.2.1,
        ih (by simp at hfuel ⊢; omega), List.map_cons, hself]
      rfl

/-- **A simple pattern behind a text** that is taken literally. -/
theorem parse_behind {cs : List Char} (h : IsSimple cs) (text : List Char) :
    parse (String.ofList (text.flatMap escapeChar ++ cs)) =
      .ok (text.map selfPart ++ cs.map wildPart) := by
  unfold parse
  rw [String.toList_ofList]
  exact readFrom_escaped h (Nat.lt_succ_self _) none

end Walk

end Rulebook.Glob
