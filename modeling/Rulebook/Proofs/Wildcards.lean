import Rulebook.Proofs.PatternReading
import Rulebook.Text.Split
import Rulebook.Proofs.WalkTexts

/-!
# Wildcards

A simple pattern is made of characters that stand for themselves and of the wildcards `*` and `?`,
which stand for texts within a name. What fits it is defined by the pattern alone (`Fits`), and both
ways of matching decide it: one on the characters of a name (`Walk.isMatch_wildParts_iff`), the
other on the bytes of a whole path, if all its characters are bytes of their own
(`Stored.listCovers_wildParts_iff`).

**Theorem (`fits_intercalate_iff`).** A path fits a pattern exactly if its names fit the patterns
between the slashes, one by one.
-/

namespace Rulebook.Glob

open String (utf8EncodeChar)

/-- What a character of a pattern stands for: `*` for any text within a name, `?` for any character
of a name, and any other character for itself. -/
def Stands (c : Char) (u : List Char) : Prop :=
  if c = '*' then '/' ∉ u else if c = '?' then ∃ d, d ≠ '/' ∧ u = [d] else u = [c]

/-- A text is made of what the characters of a pattern stand for. -/
def Fits : List Char → List Char → Prop
  | [], s => s = []
  | c :: cs, s => ∃ u v, s = u ++ v ∧ Stands c u ∧ Fits cs v

theorem fits_cons_iff {c : Char} {cs s : List Char} :
    Fits (c :: cs) s ↔ ∃ u v, s = u ++ v ∧ Stands c u ∧ Fits cs v := Iff.rfl

theorem Stands.slash_not_mem {c : Char} (hc : c ≠ '/') {u : List Char} (h : Stands c u) :
    '/' ∉ u := by
  unfold Stands at h
  split at h
  · exact h
  · split at h
    · obtain ⟨d, hd, rfl⟩ := h
      simpa using Ne.symm hd
    · subst h
      simpa using Ne.symm hc

/-! ## Names -/

theorem fits_append_iff {cs ds s : List Char} :
    Fits (cs ++ ds) s ↔ ∃ u v, s = u ++ v ∧ Fits cs u ∧ Fits ds v := by
  induction cs generalizing s with
  | nil =>
    constructor
    · intro hs
      exact ⟨[], s, rfl, rfl, hs⟩
    · rintro ⟨_, v, rfl, rfl, hv⟩
      exact hv
  | cons c cs ih =>
    simp only [List.cons_append, fits_cons_iff, ih]
    constructor
    · rintro ⟨u, _, rfl, hu, v, w, rfl, hv, hw⟩
      exact ⟨u ++ v, w, (List.append_assoc u v w).symm, ⟨u, v, rfl, hu, hv⟩, hw⟩
    · rintro ⟨_, w, rfl, ⟨u, v, rfl, hu, hv⟩, hw⟩
      exact ⟨u, v ++ w, List.append_assoc u v w, hu, v, w, rfl, hv, hw⟩

theorem Fits.slash_not_mem {cs s : List Char} (hcs : '/' ∉ cs) (h : Fits cs s) : '/' ∉ s := by
  induction cs generalizing s with
  | nil =>
    cases h
    exact List.not_mem_nil
  | cons c cs ih =>
    obtain ⟨u, v, rfl, hu, hv⟩ := h
    rw [List.mem_cons, not_or] at hcs
    rw [List.mem_append, not_or]
    exact ⟨hu.slash_not_mem (Ne.symm hcs.1), ih hcs.2 hv⟩

/-- Up to the first slash, a text is made of what the pattern up to its first slash stands for. -/
theorem fits_append_slash_iff {p n rest more : List Char} (hp : '/' ∉ p) (hn : '/' ∉ n) :
    Fits (p ++ '/' :: rest) (n ++ '/' :: more) ↔ Fits p n ∧ Fits rest more := by
  rw [fits_append_iff]
  constructor
  · rintro ⟨u, _, heq, hu, _, v, rfl, rfl, hv⟩
    have hsplit := congrArg (Text.split '/') heq
    rw [Text.split_append_cons hn, List.singleton_append,
      Text.split_append_cons (hu.slash_not_mem hp), List.cons.injEq] at hsplit
    obtain rfl := hsplit.1
    cases List.append_cancel_left heq
    exact ⟨hu, hv⟩
  · rintro ⟨hu, hv⟩
    exact ⟨n, '/' :: more, rfl, hu, ['/'], more, rfl, rfl, hv⟩

/-- **Name by name.** A path is made of what a pattern stands for exactly if its names are, one by
one. -/
theorem fits_intercalate_iff {ps ns : List (List Char)} (hps : ∀ p ∈ ps, '/' ∉ p)
    (hns : ∀ n ∈ ns, '/' ∉ n) (hpne : ps ≠ []) (hnne : ns ≠ []) :
    Fits (['/'].intercalate ps) (['/'].intercalate ns) ↔ List.Forall₂ Fits ps ns := by
  induction ps generalizing ns with
  | nil => exact absurd rfl hpne
  | cons p ps ih =>
    obtain ⟨n, ns, rfl⟩ := List.exists_cons_of_ne_nil hnne
    rw [List.forall_mem_cons] at hps hns
    rw [List.forall₂_cons]
    by_cases hps' : ps = []
    · subst hps'
      by_cases hns' : ns = []
      · subst hns'
        simp
      · obtain ⟨m, ns, rfl⟩ := List.exists_cons_of_ne_nil hns'
        rw [List.intercalate_singleton, List.intercalate_cons_cons]
        refine iff_of_false (fun hfits => ?_) fun hfits => nomatch hfits.2
        exact hfits.slash_not_mem hps.1 (by simp)
    · obtain ⟨q, ps, rfl⟩ := List.exists_cons_of_ne_nil hps'
      rw [List.intercalate_cons_cons, List.append_assoc, List.singleton_append]
      by_cases hns' : ns = []
      · subst hns'
        rw [List.intercalate_singleton, fits_append_iff]
        refine iff_of_false ?_ fun hfits => nomatch hfits.2
        rintro ⟨u, _, rfl, -, _, v, rfl, rfl, -⟩
        exact hns.1 (by simp)
      · obtain ⟨m, ns, rfl⟩ := List.exists_cons_of_ne_nil hns'
        rw [List.intercalate_cons_cons, List.append_assoc, List.singleton_append,
          fits_append_slash_iff hps.1 hns.1, ih hps.2 hns.2 hps' hns']

/-! ## Matching -/

namespace Walk

theorem covers_wildPart_iff {c : Char} {u : List Char} (hu : '/' ∉ u) :
    (wildPart c).Covers u ↔ Stands c u := by
  unfold wildPart Stands
  by_cases hany : c = '?'
  · subst hany
    have hslash {d : Char} (hd : u = [d]) : d ≠ '/' := by
      rintro rfl
      exact hu (hd ▸ List.mem_singleton_self _)
    show (∃ d, u = [d]) ↔ ∃ d, d ≠ '/' ∧ u = [d]
    exact exists_congr fun d => ⟨fun hd => ⟨hslash hd, hd⟩, And.right⟩
  · by_cases hstar : c = '*'
    · subst hstar
      exact iff_of_true trivial hu
    · rw [if_neg hany, if_neg hstar, if_neg hstar, if_neg hany]
      exact Iff.rfl

/-- Names are matched by what fits them. -/
theorem isMatch_wildParts_iff {cs : List Char} {name : String} (hname : '/' ∉ name.toList) :
    isMatch (cs.map wildPart) name = true ↔ Fits cs name.toList := by
  have hlist {s : List Char} (hs : '/' ∉ s) : ListCovers (cs.map wildPart) s ↔ Fits cs s := by
    induction cs generalizing s with
    | nil => exact Iff.rfl
    | cons c cs ih =>
      rw [List.map_cons, listCovers_cons, fits_cons_iff]
      refine exists_congr fun u => exists_congr fun v => and_congr_right fun heq => ?_
      rw [heq, List.mem_append, not_or] at hs
      rw [covers_wildPart_iff hs.1, ih hs.2]
  rw [isMatch_iff, hlist hname]

end Walk

/-- A text of characters that are bytes of their own. -/
def IsAscii (s : List Char) : Prop := ∀ c ∈ s, c.val.toNat < 128

instance (s : List Char) : Decidable (IsAscii s) :=
  List.decidableBAll (fun c : Char => c.val.toNat < 128) s

namespace Stored

/-- The part that a character outside of a class and of a group is read as. -/
def wildPart (c : Char) : Part :=
  if c = '?' then .any else if c = '*' then .star else .literal c

theorem encode_of_isAscii {s : List Char} (hs : IsAscii s) :
    s.flatMap utf8EncodeChar = s.map fun c => UInt8.ofNat c.val.toNat := by
  have hone : ∀ c ∈ s, utf8EncodeChar c = [UInt8.ofNat c.val.toNat] := by
    intro c hc
    have hlt := hs c hc
    rcases Text.encode_cases c with ⟨-, hone⟩ | ⟨hle, -⟩ | ⟨hle, -⟩ | ⟨hle, -⟩
    · exact hone
    · omega
    · omega
    · omega
  rw [List.flatMap_congr hone, List.map_eq_flatMap]

theorem byte_eq_slash_iff {c : Char} (hc : c.val.toNat < 128) :
    UInt8.ofNat c.val.toNat = slash ↔ c = '/' := by
  have hslash : slash = UInt8.ofNat '/'.val.toNat := rfl
  rw [hslash, ← UInt8.toNat_inj, UInt8.toNat_ofNat', UInt8.toNat_ofNat',
    Nat.mod_eq_of_lt (by omega), Nat.mod_eq_of_lt (by decide), UInt32.toNat_inj, Char.ext_iff]

theorem covers_wildPart_iff {c : Char} {u : List Char} (hu : IsAscii u) :
    (wildPart c).Covers (u.flatMap utf8EncodeChar) ↔ Stands c u := by
  unfold wildPart Stands
  by_cases hany : c = '?'
  · subst hany
    show (∃ b, b ≠ slash ∧ u.flatMap utf8EncodeChar = [b]) ↔ ∃ d, d ≠ '/' ∧ u = [d]
    rw [encode_of_isAscii hu]
    simp only [List.map_eq_singleton_iff]
    constructor
    · rintro ⟨_, hb, d, rfl, rfl⟩
      exact ⟨d, fun hd => hb ((byte_eq_slash_iff (hu d (by simp))).2 hd), rfl⟩
    · rintro ⟨d, hd, rfl⟩
      exact ⟨_, fun hb => hd ((byte_eq_slash_iff (hu d (by simp))).1 hb), d, rfl, rfl⟩
  · by_cases hstar : c = '*'
    · subst hstar
      show slash ∉ u.flatMap utf8EncodeChar ↔ '/' ∉ u
      rw [encode_of_isAscii hu, List.mem_map, not_iff_not]
      constructor
      · rintro ⟨d, hd, hbyte⟩
        exact (byte_eq_slash_iff (hu d hd)).1 hbyte ▸ hd
      · exact fun hd => ⟨'/', hd, rfl⟩
    · rw [if_neg hany, if_neg hstar, if_neg hstar, if_neg hany]
      show u.flatMap utf8EncodeChar = bytesOf c ↔ u = [c]
      rw [bytesOf_eq, ← List.flatMap_singleton utf8EncodeChar c]
      exact Text.flatMap_encode_inj

theorem take_of_isSimple {c : Char} {cs : List Char} (h : IsSimple (c :: cs)) (parts : List Part)
    (before : Option Char) :
    State.take ⟨parts, []⟩ before c cs = .ok ⟨⟨wildPart c :: parts, []⟩, c, cs⟩ := by
  have hplain := h.plain c (List.mem_cons_self ..)
  simp only [List.mem_cons, List.not_mem_nil, or_false, not_or] at hplain
  obtain ⟨hopen, hclose, hbrace, hbrace', hbackslash⟩ := hplain
  by_cases hany : c = '?'
  · subst hany
    rfl
  · by_cases hstar : c = '*'
    · subst hstar
      refine take_star fun rest hrest => h.head?_ne rfl ?_
      rw [hrest, List.head?_cons]
    · have hself : wildPart c = .literal c := by
        rw [wildPart, if_neg hany, if_neg hstar]
      rw [hself]
      refine take_outermost ?_ hbackslash parts before cs
      simp [bracketed, hany, hstar, hopen, hclose, hbrace, hbrace']

/-- **A simple pattern is read character by character.** -/
theorem read_of_isSimple {cs : List Char} (h : IsSimple cs) (parts : List Part)
    (before : Option Char) :
    read ⟨parts, []⟩ before cs = .ok (parts.reverse ++ cs.map wildPart) := by
  induction cs generalizing parts before with
  | nil => simp [read_nil]
  | cons c cs ih =>
    have htail : IsSimple cs := h.of_infix (List.suffix_cons c cs).isInfix
    rw [read_cons, take_of_isSimple h]
    refine (ih htail (wildPart c :: parts) (some c)).trans ?_
    rw [List.reverse_cons, List.append_assoc, List.singleton_append, List.map_cons]

theorem readBelow_of_isSimple {pattern : String} (h : IsSimple pattern.toList) :
    readBelow pattern = .ok (('/' :: pattern.toList).map wildPart) :=
  read_of_isSimple h [.literal '/'] (some '/')

theorem parse_of_isSimple {pattern : String} (h : IsSimple pattern.toList) :
    parse pattern = .ok (pattern.toList.map wildPart) := by
  rw [parse_eq_read]
  exact read_of_isSimple h [] none

/-- Texts whose characters are bytes are matched by what fits them. -/
theorem listCovers_wildParts_iff {cs s : List Char} (hs : IsAscii s) :
    Part.ListCovers (cs.map wildPart) (s.flatMap utf8EncodeChar) ↔ Fits cs s := by
  induction cs generalizing s with
  | nil =>
    show s.flatMap utf8EncodeChar = [] ↔ s = []
    rw [encode_of_isAscii hs, List.map_eq_nil_iff]
  | cons c cs ih =>
    rw [List.map_cons, Part.ListCovers, fits_cons_iff]
    constructor
    · rintro ⟨_, _, heq, hu, hv⟩
      rw [encode_of_isAscii hs] at heq
      obtain ⟨u, v, rfl, rfl, rfl⟩ := List.map_eq_append_iff.1 heq
      have hascii : IsAscii u ∧ IsAscii v := List.forall_mem_append.1 hs
      rw [← encode_of_isAscii hascii.1, covers_wildPart_iff hascii.1] at hu
      rw [← encode_of_isAscii hascii.2, ih hascii.2] at hv
      exact ⟨u, v, rfl, hu, hv⟩
    · rintro ⟨u, v, rfl, hu, hv⟩
      have hascii : IsAscii u ∧ IsAscii v := List.forall_mem_append.1 hs
      exact ⟨_, _, List.flatMap_append, (covers_wildPart_iff hascii.1).2 hu, (ih hascii.2).2 hv⟩

end Stored

end Rulebook.Glob
