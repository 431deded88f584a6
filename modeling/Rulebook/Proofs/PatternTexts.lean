import Rulebook.Glob.Stored
import Rulebook.Proofs.ByteOrder

/-!
# What patterns over stored paths mean

Every part of a pattern stands for a set of texts, whatever stands around it (`Part.Covers`), and
parts in a row stand for texts of theirs in a row.

**Theorem (`isMatch_iff`).** A pattern matches a text as a whole exactly if the text is one that the
pattern stands for.

Matching works on what can be left of a text. The proof is that what can be left after a part is
what follows a text of it (`Part.mem_rests_iff`), by induction on the part together with its lists
of branches. Of several equally long rests only one is kept, which loses none: all are ends of one
text (`mem_distinct_iff`).
-/

namespace Rulebook.Glob

/-- One letter is taken off. -/
theorem exists_single_iff {α : Type} {P : α → Prop} {b : α} {bs t : List α} :
    (∃ u, b :: bs = u ++ t ∧ ∃ c, P c ∧ u = [c]) ↔ P b ∧ t = bs := by
  constructor
  · rintro ⟨_, h, c, hc, rfl⟩
    cases h
    exact ⟨hc, rfl⟩
  · rintro ⟨hb, rfl⟩
    exact ⟨[b], rfl, b, hb, rfl⟩

namespace Stored

open String (utf8EncodeChar)

mutual

/-- The texts that a part stands for. -/
def Part.Covers : Part → List UInt8 → Prop
  | .literal c, t => t = bytesOf c
  | .any, t => ∃ b, b ≠ slash ∧ t = [b]
  | .star, t => slash ∉ t
  | .leading, t => t = [] ∨ ∃ u, t = u ++ [slash]
  | .between, t => t = [slash] ∨ ∃ u, t = slash :: u ++ [slash]
  | .trailing, t => ∃ u, t = slash :: u
  | .class negated ranges, t => ∃ b, (inClass ranges b != negated) = true ∧ t = [b]
  | .alternates branches, t =>
    if Part.allBranchesVoid branches then t = [] else Part.AnyCovers branches t

/-- The texts of the branches; a branch without content does not count. -/
def Part.AnyCovers : List (List Part) → List UInt8 → Prop
  | [], _ => False
  | b :: bs, t => (Part.allVoid b = false ∧ Part.ListCovers b t) ∨ Part.AnyCovers bs t

/-- The texts of parts in a row. -/
def Part.ListCovers : List Part → List UInt8 → Prop
  | [], t => t = []
  | p :: ps, t => ∃ u v, t = u ++ v ∧ p.Covers u ∧ Part.ListCovers ps v

end

theorem mem_afterBytes_iff {bs s t : List UInt8} : t ∈ afterBytes bs s ↔ s = bs ++ t := by
  induction bs generalizing s with
  | nil => simp [afterBytes, eq_comm]
  | cons b bs ih =>
    cases s with
    | nil => simp [afterBytes]
    | cons c cs =>
      unfold afterBytes
      split
      · next h => simp [ih, h]
      · next h => simp [Ne.symm h]

theorem mem_afterStar_iff {s t : List UInt8} : t ∈ afterStar s ↔ ∃ u, s = u ++ t ∧ slash ∉ u := by
  induction s with
  | nil =>
    simp only [afterStar, List.mem_singleton, List.nil_eq_append_iff]
    exact ⟨fun h => ⟨[], ⟨rfl, h⟩, List.not_mem_nil⟩, fun ⟨_, h, _⟩ => h.2⟩
  | cons b bs ih =>
    unfold afterStar
    split
    · next h =>
      constructor
      · intro ht
        cases List.mem_singleton.1 ht
        exact ⟨[], rfl, List.not_mem_nil⟩
      · rintro ⟨u, hu, hslash⟩
        cases u with
        | nil => simp [hu]
        | cons c u =>
          cases hu
          exact absurd (h ▸ List.mem_cons_self ..) hslash
    · next h =>
      rw [List.mem_cons, ih]
      constructor
      · rintro (rfl | ⟨u, rfl, hu⟩)
        · exact ⟨[], rfl, List.not_mem_nil⟩
        · exact ⟨b :: u, rfl, by simp [hu, Ne.symm h]⟩
      · rintro ⟨u, hu, hslash⟩
        cases u with
        | nil => exact .inl hu.symm
        | cons c u =>
          cases hu
          exact .inr ⟨u, rfl, fun hm => hslash (List.mem_cons_of_mem b hm)⟩

theorem mem_afterSlashes_iff {s t : List UInt8} :
    t ∈ afterSlashes s ↔ ∃ u, s = u ++ slash :: t := by
  induction s with
  | nil => simp [afterSlashes]
  | cons b bs ih =>
    have hstep : (∃ u, b :: bs = u ++ slash :: t) ↔
        (b = slash ∧ bs = t) ∨ ∃ u, bs = u ++ slash :: t := by
      constructor
      · rintro ⟨u, hu⟩
        cases u with
        | nil => cases hu; exact .inl ⟨rfl, rfl⟩
        | cons c u => cases hu; exact .inr ⟨u, rfl⟩
      · rintro (⟨rfl, rfl⟩ | ⟨u, rfl⟩)
        · exact ⟨[], rfl⟩
        · exact ⟨b :: u, rfl⟩
    unfold afterSlashes
    rw [hstep]
    split
    · next h => simp [h, ih, eq_comm]
    · next h => simp [h, ih]

theorem mem_rests_leading_iff {s t : List UInt8} :
    t ∈ Part.leading.rests s ↔ ∃ u, s = u ++ t ∧ Part.leading.Covers u := by
  have hcovers : (∃ u, s = u ++ t ∧ Part.leading.Covers u) ↔ s = t ∨ t ∈ afterSlashes s := by
    rw [mem_afterSlashes_iff]
    constructor
    · rintro ⟨_, rfl, rfl | ⟨u, rfl⟩⟩
      · exact .inl rfl
      · exact .inr ⟨u, (List.append_cons u slash t).symm⟩
    · rintro (rfl | ⟨u, rfl⟩)
      · exact ⟨[], rfl, .inl rfl⟩
      · exact ⟨u ++ [slash], List.append_cons u slash t, .inr ⟨u, rfl⟩⟩
  rw [hcovers]
  cases s with
  | nil => simp [Part.rests, afterSlashes, eq_comm]
  | cons b bs =>
    by_cases hb : b = slash <;> simp [Part.rests, afterSlashes, hb, eq_comm]

theorem mem_rests_between_iff {s t : List UInt8} :
    t ∈ Part.between.rests s ↔ ∃ u, s = u ++ t ∧ Part.between.Covers u := by
  cases s with
  | nil => simp [Part.rests, Part.Covers]
  | cons b bs =>
    have hcovers : (∃ u, b :: bs = u ++ t ∧ Part.between.Covers u) ↔
        b = slash ∧ (t = bs ∨ t ∈ afterSlashes bs) := by
      rw [mem_afterSlashes_iff]
      constructor
      · rintro ⟨_, h, rfl | ⟨u, rfl⟩⟩
        · cases h
          exact ⟨rfl, .inl rfl⟩
        · cases h
          exact ⟨rfl, .inr ⟨u, (List.append_cons u slash t).symm⟩⟩
      · rintro ⟨rfl, rfl | ⟨u, rfl⟩⟩
        · exact ⟨[slash], rfl, .inl rfl⟩
        · exact ⟨slash :: u ++ [slash], by simp, .inr ⟨u, rfl⟩⟩
    rw [hcovers]
    by_cases hb : b = slash <;> simp [Part.rests, hb]

theorem mem_rests_trailing_iff {s t : List UInt8} :
    t ∈ Part.trailing.rests s ↔ ∃ u, s = u ++ t ∧ Part.trailing.Covers u := by
  cases s with
  | nil => simp [Part.rests, Part.Covers]
  | cons b bs =>
    have hcovers : (∃ u, b :: bs = u ++ t ∧ Part.trailing.Covers u) ↔ b = slash ∧ t <:+ bs := by
      constructor
      · rintro ⟨_, h, u, rfl⟩
        cases h
        exact ⟨rfl, u, rfl⟩
      · rintro ⟨rfl, u, rfl⟩
        exact ⟨slash :: u, rfl, u, rfl⟩
    rw [hcovers, ← mem_suffixes_iff]
    by_cases hb : b = slash <;> simp [Part.rests, hb]

theorem suffix_of_mem_rests {p : Part} {s t w : List UInt8} (hs : s <:+ w)
    (ht : ∃ u, s = u ++ t ∧ p.Covers u) : t <:+ w := by
  obtain ⟨u, rfl, -⟩ := ht
  exact (List.suffix_append u t).trans hs

mutual

/-- **What is left after a part** is what follows a text of it. -/
theorem Part.mem_rests_iff (p : Part) {s t : List UInt8} :
    t ∈ p.rests s ↔ ∃ u, s = u ++ t ∧ p.Covers u := by
  cases p with
  | literal c => simp [Part.rests, Part.Covers, mem_afterBytes_iff]
  | any =>
    cases s with
    | nil => simp [Part.rests, Part.Covers]
    | cons b bs =>
      simp only [Part.Covers, exists_single_iff]
      by_cases hb : b = slash <;> simp [Part.rests, hb]
  | star => exact mem_afterStar_iff
  | leading => exact mem_rests_leading_iff
  | between => exact mem_rests_between_iff
  | trailing => exact mem_rests_trailing_iff
  | «class» negated ranges =>
    cases s with
    | nil => simp [Part.rests, Part.Covers]
    | cons b bs =>
      simp only [Part.Covers, exists_single_iff]
      by_cases hb : (inClass ranges b != negated) = true <;> simp only [Part.rests, hb] <;> simp
  | alternates branches =>
    unfold Part.rests Part.Covers
    split
    · simp [eq_comm]
    · exact Part.mem_branchRests_iff branches

theorem Part.mem_branchRests_iff (bs : List (List Part)) {s t : List UInt8} :
    t ∈ Part.branchRests bs s ↔ ∃ u, s = u ++ t ∧ Part.AnyCovers bs u := by
  cases bs with
  | nil => simp [Part.branchRests, Part.AnyCovers]
  | cons b bs =>
    have hb : t ∈ Part.listRests b [s] ↔ ∃ u, s = u ++ t ∧ Part.ListCovers b u := by
      rw [Part.mem_listRests_iff b (w := s) fun r hr =>
        List.mem_singleton.1 hr ▸ List.suffix_refl s]
      simp only [List.mem_singleton, exists_eq_left]
    have hbs := Part.mem_branchRests_iff bs (s := s) (t := t)
    unfold Part.branchRests Part.AnyCovers
    rw [List.mem_append, hbs]
    cases Part.allVoid b <;> simp [hb, and_or_left, exists_or]

theorem Part.mem_listRests_iff (ps : List Part) {w t : List UInt8} {ss : List (List UInt8)}
    (h : ∀ s ∈ ss, s <:+ w) :
    t ∈ Part.listRests ps ss ↔ ∃ s ∈ ss, ∃ u, s = u ++ t ∧ Part.ListCovers ps u := by
  cases ps with
  | nil => simp [Part.listRests, Part.ListCovers]
  | cons p ps =>
    have hp (s r : List UInt8) := Part.mem_rests_iff p (s := s) (t := r)
    have hrests : ∀ r ∈ ss.flatMap p.rests, r <:+ w := by
      intro r hr
      obtain ⟨s, hs, hr⟩ := List.mem_flatMap.1 hr
      exact suffix_of_mem_rests (h s hs) ((hp s r).1 hr)
    -- All rests end the same text, so that those of one length are the same.
    have hdistinct (r : List UInt8) := mem_distinct_iff (t := r) hrests
    unfold Part.listRests Part.ListCovers
    rw [Part.mem_listRests_iff ps fun r hr => hrests r ((hdistinct r).1 hr)]
    constructor
    · rintro ⟨r, hr, v, rfl, hv⟩
      obtain ⟨s, hs, hr⟩ := List.mem_flatMap.1 ((hdistinct _).1 hr)
      obtain ⟨u, rfl, hu⟩ := (hp s _).1 hr
      exact ⟨_, hs, u ++ v, (List.append_assoc u v t).symm, u, v, rfl, hu, hv⟩
    · rintro ⟨s, hs, _, rfl, u, v, rfl, hu, hv⟩
      refine ⟨v ++ t, (hdistinct _).2 (List.mem_flatMap.2 ⟨_, hs, ?_⟩), v, rfl, hv⟩
      exact (hp _ _).2 ⟨u, List.append_assoc u v t, hu⟩

end

/-- The texts that a pattern matches as a whole; a pattern that is only `**` matches everything. -/
def Matches (parts : List Part) (text : String) : Prop :=
  parts = [.leading] ∨ Part.ListCovers parts (Text.bytes text)

/-- **Matching decides meaning.** -/
theorem isMatch_iff {parts : List Part} {text : String} :
    isMatch parts text = true ↔ Matches parts text := by
  have hany : (Part.listRests parts [text.toUTF8.toList]).any List.isEmpty = true ↔
      Part.ListCovers parts (Text.bytes text) := by
    rw [List.any_eq_true, Text.toList_toUTF8]
    simp only [List.isEmpty_iff]
    rw [exists_eq_right, Part.mem_listRests_iff parts (w := Text.bytes text)
      fun r hr => List.mem_singleton.1 hr ▸ List.suffix_refl _]
    simp
  unfold isMatch Matches
  split
  · simp
  · next h => rw [hany, or_iff_right h]

theorem listCovers_append_iff {ps qs : List Part} {t : List UInt8} :
    Part.ListCovers (ps ++ qs) t ↔
      ∃ u v, t = u ++ v ∧ Part.ListCovers ps u ∧ Part.ListCovers qs v := by
  induction ps generalizing t with
  | nil =>
    constructor
    · intro ht
      exact ⟨[], t, rfl, rfl, ht⟩
    · rintro ⟨_, v, rfl, rfl, hv⟩
      exact hv
  | cons p ps ih =>
    simp only [List.cons_append, Part.ListCovers, ih]
    constructor
    · rintro ⟨u, _, rfl, hu, v, w, rfl, hv, hw⟩
      exact ⟨u ++ v, w, (List.append_assoc u v w).symm, ⟨u, v, rfl, hu, hv⟩, hw⟩
    · rintro ⟨_, w, rfl, ⟨u, v, rfl, hu, hv⟩, hw⟩
      exact ⟨u, v ++ w, List.append_assoc u v w, hu, v, w, rfl, hv, hw⟩

theorem slash_cons_bytes (s : String) :
    slash :: Text.bytes s = ('/' :: s.toList).flatMap utf8EncodeChar := by
  rw [Text.bytes_eq_flatMap]
  rfl

theorem bytesOf_eq (c : Char) : bytesOf c = utf8EncodeChar c := by
  unfold bytesOf
  rw [Text.toList_toUTF8, Text.bytes_eq_flatMap]
  simp

end Stored

end Rulebook.Glob
