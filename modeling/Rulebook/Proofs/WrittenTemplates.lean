import Rulebook.Proofs.Templates
import Mathlib.Data.List.Chain

/-!
# Templates written out

Pieces are written out with every dollar sign doubled and every name in braces.

**Theorem (`parse_written`).** Whatever pieces are written out, so that what results is not blank,
it is read as these pieces without empty literals and with neighbouring literals joined. Templates
that have been read are of this form, so they are read back as they were.

Pieces are written as the tokens that say what they say (`toList_written`), and these tokens are
read whatever comes after them. What is read is normal, since adding a token keeps it so
(`Normal.push`), and normal pieces are those that their tokens are read as (`ofTokens_tokens`).
-/

namespace Rulebook

/-- A piece as it is written: dollar signs doubled, and a name with braces around it. -/
def Segment.written : Segment → String
  | literal text => String.ofList (text.toList.flatMap fun c => if c = '$' then ['$', '$'] else [c])
  | ref name => "$\x7b" ++ name ++ "\x7d"

def Segment.IsLiteral : Segment → Prop
  | literal _ => True
  | ref _ => False

namespace Template

/-- The text of a template. -/
def written (pieces : List Segment) : String := String.join (pieces.map Segment.written)

/-- Text in front of pieces. If these begin with a literal, it becomes part of that. -/
def prepend (text : String) : List Segment → List Segment
  | .literal more :: pieces => .literal (text ++ more) :: pieces
  | pieces => if text = "" then pieces else .literal text :: pieces

/-- Pieces without empty literals, and with neighbouring literals joined. -/
def normalized : List Segment → List Segment
  | [] => []
  | .literal text :: pieces => prepend text (normalized pieces)
  | .ref name :: pieces => .ref name :: normalized pieces

/-- No literal is empty, and no literal comes right after another. -/
structure Normal (pieces : List Segment) : Prop where
  nonempty : Segment.literal "" ∉ pieces
  apart : pieces.IsChain fun a b => ¬ (a.IsLiteral ∧ b.IsLiteral)

variable {pieces done : List Segment}

/-! ## Normal pieces -/

theorem normal_nil : Normal [] := ⟨List.not_mem_nil, .nil⟩

theorem normal_cons_ref {name : String} : Normal (.ref name :: pieces) ↔ Normal pieces := by
  constructor
  · intro h
    exact ⟨fun hmem => h.nonempty (List.mem_cons_of_mem _ hmem), (List.isChain_cons.1 h.apart).2⟩
  · intro h
    refine ⟨fun hmem => ?_, List.isChain_cons.2 ⟨fun b _ => fun hboth => hboth.1, h.apart⟩⟩
    rcases List.mem_cons.1 hmem with heq | hmem
    · cases heq
    · exact h.nonempty hmem

theorem normal_cons_literal {text : String} : Normal (.literal text :: pieces) ↔
    text ≠ "" ∧ (∀ piece ∈ pieces.head?, ¬ piece.IsLiteral) ∧ Normal pieces := by
  constructor
  · intro h
    obtain ⟨hhead, htail⟩ := List.isChain_cons.1 h.apart
    refine ⟨fun hempty => ?_, fun piece hpiece hliteral => ?_, ?_⟩
    · exact h.nonempty (hempty ▸ List.mem_cons_self)
    · exact hhead piece hpiece ⟨trivial, hliteral⟩
    · exact ⟨fun hmem => h.nonempty (List.mem_cons_of_mem _ hmem), htail⟩
  · rintro ⟨hne, hhead, h⟩
    refine ⟨fun hmem => ?_, List.isChain_cons.2 ⟨fun b hb hboth => hhead b hb hboth.2, h.apart⟩⟩
    rcases List.mem_cons.1 hmem with heq | hmem
    · cases heq
      exact hne rfl
    · exact h.nonempty hmem

theorem Normal.reverse (h : Normal pieces) : Normal pieces.reverse := by
  refine ⟨fun hmem => h.nonempty (List.mem_reverse.1 hmem), List.isChain_reverse.2 ?_⟩
  exact h.apart.imp fun a b hnot hboth => hnot hboth.symm

theorem Normal.prepend (h : Normal pieces) (text : String) : Normal (prepend text pieces) := by
  unfold Template.prepend
  split
  · next more rest =>
    obtain ⟨hne, hhead, hrest⟩ := normal_cons_literal.1 h
    refine normal_cons_literal.2 ⟨fun hempty => hne ?_, hhead, hrest⟩
    exact (String.append_eq_empty_iff.1 hempty).2
  · next hnot =>
    split
    · exact h
    · next hne =>
      refine normal_cons_literal.2 ⟨hne, fun piece hpiece hliteral => ?_, h⟩
      obtain ⟨rest, rfl⟩ := List.head?_eq_some_iff.1 hpiece
      cases piece with
      | literal more => exact hnot more rest rfl
      | ref => exact hliteral

theorem normal_normalized (parts : List Segment) : Normal (normalized parts) := by
  induction parts with
  | nil => exact normal_nil
  | cons piece parts ih =>
    cases piece with
    | literal text => exact ih.prepend text
    | ref name => exact normal_cons_ref.2 ih

theorem Normal.pushChar (h : Normal done) (c : Char) : Normal (pushChar c done) := by
  unfold Template.pushChar
  split
  · next text rest =>
    obtain ⟨-, hhead, hrest⟩ := normal_cons_literal.1 h
    exact normal_cons_literal.2 ⟨String.push_ne_empty, hhead, hrest⟩
  · next hnot =>
    refine normal_cons_literal.2 ⟨String.singleton_ne_empty, fun piece hpiece hliteral => ?_, h⟩
    obtain ⟨rest, rfl⟩ := List.head?_eq_some_iff.1 hpiece
    cases piece with
    | literal text => exact hnot text rest rfl
    | ref => exact hliteral

theorem Normal.push (h : Normal done) (t : Token) : Normal (t.push done) := by
  cases t with
  | char c => exact h.pushChar c
  | dollar => exact h.pushChar '$'
  | braced | bare => exact normal_cons_ref.2 h

theorem normal_foldl_push (h : Normal done) (ts : List Token) :
    Normal (ts.foldl Token.push done) := by
  induction ts generalizing done with
  | nil => exact h
  | cons t ts ih => exact ih (h.push t)

/-- **What is read is normal.** -/
theorem normal_ofTokens (ts : List Token) : Normal (ofTokens ts) :=
  (normal_foldl_push normal_nil ts).reverse

/-! ## Tokens of pieces -/

theorem tokens_prepend (text : String) (pieces : List Segment) :
    (prepend text pieces).flatMap tokens =
      text.toList.map Token.ofChar ++ pieces.flatMap tokens := by
  unfold prepend
  split
  · simp [tokens]
  · split
    · next hempty =>
      rw [hempty]
      rfl
    · rfl

theorem tokens_normalized (parts : List Segment) :
    (normalized parts).flatMap tokens = parts.flatMap tokens := by
  induction parts with
  | nil => rfl
  | cons piece parts ih =>
    cases piece with
    | literal text =>
      show (prepend text (normalized parts)).flatMap tokens = _
      rw [tokens_prepend, ih]
      rfl
    | ref name =>
      show (Segment.ref name :: normalized parts).flatMap tokens = _
      rw [List.flatMap_cons, List.flatMap_cons, ih]

theorem push_ofChar (c : Char) : (Token.ofChar c).push done = pushChar c done := by
  unfold Token.ofChar
  split
  · next h =>
    rw [h]
    rfl
  · rfl

/-- The characters of a literal are put together again. -/
theorem foldl_push_chars (cs : List Char) (text : String) :
    (cs.map Token.ofChar).foldl Token.push (.literal text :: done) =
      .literal (text ++ String.ofList cs) :: done := by
  induction cs generalizing text with
  | nil =>
    rw [String.ofList_nil, String.append_empty]
    rfl
  | cons c cs ih =>
    rw [List.map_cons, List.foldl_cons, push_ofChar]
    show (cs.map Token.ofChar).foldl Token.push (.literal (text.push c) :: done) = _
    rw [ih, String.ofList_cons, String.push_eq_append, String.append_assoc]

theorem foldl_push_literal {text : String} (hne : text ≠ "")
    (hdone : ∀ piece ∈ done.head?, ¬ piece.IsLiteral) :
    (text.toList.map Token.ofChar).foldl Token.push done = .literal text :: done := by
  have hnil : text.toList ≠ [] := fun hnil => hne (String.toList_eq_nil_iff.1 hnil)
  obtain ⟨c, cs, hcs⟩ := List.exists_cons_of_ne_nil hnil
  have hpush : pushChar c done = .literal (String.singleton c) :: done := by
    unfold pushChar
    split
    · next text rest => exact absurd trivial (hdone _ rfl)
    · rfl
  rw [hcs, List.map_cons, List.foldl_cons, push_ofChar, hpush, foldl_push_chars,
    ← String.ofList_cons, ← hcs, String.ofList_toList]

/-- Normal pieces come back from their tokens, behind pieces that they do not join with. -/
theorem foldl_push_tokens (h : Normal pieces)
    (hdone : ∀ a ∈ pieces.head?, ∀ b ∈ done.head?, ¬ (a.IsLiteral ∧ b.IsLiteral)) :
    (pieces.flatMap tokens).foldl Token.push done = pieces.reverse ++ done := by
  induction pieces generalizing done with
  | nil => rfl
  | cons piece pieces ih =>
    rw [List.flatMap_cons, List.foldl_append, List.reverse_cons, List.append_assoc]
    cases piece with
    | literal text =>
      obtain ⟨hne, hhead, hrest⟩ := normal_cons_literal.1 h
      have hliteral : (tokens (.literal text)).foldl Token.push done = .literal text :: done :=
        foldl_push_literal hne fun b hb hboth => hdone _ rfl b hb ⟨trivial, hboth⟩
      rw [hliteral]
      exact ih hrest fun a ha _ _ hboth => hhead a ha hboth.1
    | ref name =>
      refine ih (normal_cons_ref.1 h) fun a _ b hb hboth => ?_
      cases hb
      exact hboth.2

/-- **Normal pieces are what their tokens are read as.** -/
theorem ofTokens_tokens (h : Normal pieces) : ofTokens (pieces.flatMap tokens) = pieces := by
  unfold ofTokens
  rw [foldl_push_tokens h fun _ _ _ hb => absurd hb (Option.not_mem_none _), List.append_nil,
    List.reverse_reverse]

/-! ## Writing and reading -/

theorem spelled_ofChar (c : Char) :
    (Token.ofChar c).spelled = if c = '$' then ['$', '$'] else [c] := by
  unfold Token.ofChar
  split <;> rfl

/-- Pieces are written as their tokens are spelled. -/
theorem toList_written (pieces : List Segment) :
    (written pieces).toList = (pieces.flatMap tokens).flatMap Token.spelled := by
  have hpiece (piece : Segment) : piece.written.toList = (tokens piece).flatMap Token.spelled := by
    cases piece with
    | literal text =>
      show (String.ofList _).toList = _
      rw [String.toList_ofList, tokens, List.flatMap_map]
      simp only [spelled_ofChar]
    | ref name =>
      simp [Segment.written, tokens, Token.spelled]
  rw [written, String.toList_join, List.flatMap_map, List.flatMap_assoc]
  simp only [hpiece]

/-- Tokens that are read whatever comes after them are read one after the other. -/
theorem splits_of_forall {names : List String} {ts : List Token}
    (h : ∀ t ∈ ts, (∀ after, t.ReadBefore after) ∧ t.Allowed names) :
    Splits names (ts.flatMap Token.spelled) ts [] := by
  induction ts with
  | nil => exact .nil []
  | cons t ts ih =>
    obtain ⟨ht, hts⟩ := List.forall_mem_cons.1 h
    exact .cons (ht.1 _) ht.2 (ih hts)

theorem readBefore_ofChar (c : Char) (after : List Char) : (Token.ofChar c).ReadBefore after := by
  unfold Token.ofChar
  split
  · trivial
  · next h => exact h

section Parse

variable {captures : List String}

/-- **Written pieces are read as what they say.** -/
theorem parse_written_eq {parts : List Segment}
    (hrefs : ∀ name, Segment.ref name ∈ parts →
      name ≠ "" ∧ '\x7d' ∉ name.toList ∧ (name ∈ builtins ∨ name ∈ captures))
    (hblank : Text.allBlank (written parts) = false) :
    parse captures (written parts) = .ok ⟨ofTokens (parts.flatMap tokens)⟩ := by
  refine parse_of_splits hblank ?_
  rw [toList_written]
  refine splits_of_forall fun t ht => ?_
  obtain ⟨piece, hpiece, ht⟩ := List.mem_flatMap.1 ht
  cases piece with
  | literal text =>
    obtain ⟨c, -, rfl⟩ := List.mem_map.1 ht
    refine ⟨readBefore_ofChar c, fun name hname => ?_⟩
    cases (Token.name?_ofChar c).symm.trans hname
  | ref name =>
    obtain rfl := List.mem_singleton.1 ht
    obtain ⟨hne, hclose, hmem⟩ := hrefs name hpiece
    refine ⟨fun _ => hclose, fun other hother => ?_⟩
    cases hother
    exact ⟨hne, List.mem_append.2 hmem⟩

/-- The names of a template that has been read can be written in braces. -/
theorem Splits.ref_mem {names : List String} {cs left : List Char} {ts : List Token}
    (h : Splits names cs ts left) {name : String} (hname : Segment.ref name ∈ ofTokens ts) :
    name ≠ "" ∧ '\x7d' ∉ name.toList ∧ name ∈ names := by
  have hmem : Token.braced name ∈ (ofTokens ts).flatMap tokens :=
    List.mem_flatMap.2 ⟨_, hname, List.mem_singleton_self _⟩
  rw [tokens_ofTokens] at hmem
  obtain ⟨t, ht, hplain⟩ := List.mem_map.1 hmem
  have hname? : t.name? = some name := by
    rw [← Token.name?_plain, hplain]
    rfl
  obtain ⟨⟨after, hbefore⟩, hallowed⟩ := h.of_mem ht
  obtain ⟨hne, hmem⟩ := hallowed name hname?
  refine ⟨hne, ?_, hmem⟩
  cases t with
  | char | dollar => cases hname?
  | braced =>
    cases hname?
    exact hbefore
  | bare =>
    cases hname?
    exact fun hclose => (hbefore.1 _ hclose).ne_close rfl

/-- A token has a character that is not white space in one spelling if it has in the other. -/
theorem exists_not_blank_plain {t : Token} (h : ∃ c ∈ t.spelled, Text.isBlank c = false) :
    ∃ c ∈ t.plain.spelled, Text.isBlank c = false := by
  cases t with
  | char c =>
    obtain ⟨d, hd, hblank⟩ := h
    obtain rfl := List.mem_singleton.1 hd
    refine ⟨d, ?_, hblank⟩
    show d ∈ (Token.ofChar d).spelled
    rw [spelled_ofChar]
    split
    · next h => exact h ▸ List.mem_cons_self
    · exact List.mem_cons_self
  | dollar | braced | bare => exact ⟨'$', List.mem_cons_self, by decide⟩

theorem allBlank_eq_false_iff {s : String} :
    Text.allBlank s = false ↔ ∃ c ∈ s.toList, Text.isBlank c = false := by
  unfold Text.allBlank
  simp

theorem Splits.allBlank_written {names : List String} {source : String} {ts : List Token}
    (h : Splits names source.toList ts []) (hblank : Text.allBlank source = false) :
    Text.allBlank (written (ofTokens ts)) = false := by
  obtain ⟨c, hc, hc'⟩ := allBlank_eq_false_iff.1 hblank
  rw [h.eq_append, List.append_nil] at hc
  obtain ⟨t, ht, hct⟩ := List.mem_flatMap.1 hc
  obtain ⟨d, hd, hd'⟩ := exists_not_blank_plain ⟨c, hct, hc'⟩
  refine allBlank_eq_false_iff.2 ⟨d, ?_, hd'⟩
  rw [toList_written, tokens_ofTokens]
  exact List.mem_flatMap.2 ⟨_, List.mem_map_of_mem ht, hd⟩

/-- **Writing and reading.** Whatever literals and references to builtins and captures, by names
that can be in braces, are written out, if what results is not blank it is read as the same without
empty literals and with neighbouring literals joined. A template that has been read has no empty
literals and none next to each other; written out and read again, it is the same. -/
theorem parse_written (captures : List String) :
    (∀ parts : List Segment, (∀ name, Segment.ref name ∈ parts →
        name ≠ "" ∧ '\x7d' ∉ name.toList ∧ (name ∈ builtins ∨ name ∈ captures)) →
      Text.allBlank (written parts) = false →
      parse captures (written parts) = .ok ⟨normalized parts⟩) ∧
    ∀ source t, parse captures source = .ok t →
      Normal t.segments ∧ parse captures (written t.segments) = .ok t := by
  constructor
  · intro parts hrefs hblank
    have hnormal := normal_normalized parts
    rw [parse_written_eq hrefs hblank, ← tokens_normalized, ofTokens_tokens hnormal]
  · intro source t ht
    obtain ⟨hblank, ts, hsplits, rfl⟩ := exists_splits_of_parse ht
    have hnormal := normal_ofTokens ts
    refine ⟨hnormal, ?_⟩
    have hrefs : ∀ name, Segment.ref name ∈ ofTokens ts →
        name ≠ "" ∧ '\x7d' ∉ name.toList ∧ (name ∈ builtins ∨ name ∈ captures) := by
      intro name hname
      obtain ⟨hne, hclose, hmem⟩ := hsplits.ref_mem hname
      exact ⟨hne, hclose, List.mem_append.1 hmem⟩
    rw [parse_written_eq hrefs (hsplits.allBlank_written hblank), ofTokens_tokens hnormal]

end Parse

end Template

end Rulebook
