import Rulebook.Text.Split

/-!
# Lists with commas

A list is written with commas between its entries. What stands between two commas is an entry once
the white space around it is gone, if anything is left of it (`EntriesOf`).

Lists that are written one after the other, with a comma in between, have the entries of both
(`entries_append`), and entries that are written with commas in between are read back
(`entries_intercalate`). Both rest on what is known of splitting: pieces without separators are
found again when they are joined.

A list may also be written with white space around its entries and with blank pieces among them
(`Padded`). The padding is taken away again, and nothing else is: the entries of a list are the
texts that can be entries and that the list is written by padding (`entries_eq_iff`).
-/

namespace Rulebook.Text

/-- The texts between the commas of a list. -/
structure Pieces (list : String) (pieces : List String) : Prop where
  nonempty : pieces ≠ []
  separate : ∀ piece ∈ pieces, ',' ∉ piece.toList
  joined : list = ",".intercalate pieces

/-- The entries of a list: what is between its commas, without the white space around it, as far as
anything is left. -/
def EntriesOf (list : String) (es : List String) : Prop :=
  ∃ pieces, Pieces list pieces ∧ es = (pieces.map trim).filter (· ≠ "")

theorem Pieces.split {list : String} {pieces : List String} (h : Pieces list pieces) :
    Text.split ',' list.toList = pieces.map String.toList := by
  have hnonempty : pieces.map String.toList ≠ [] := by simpa using h.nonempty
  have hseparate : ∀ cs ∈ pieces.map String.toList, ',' ∉ cs := by simpa using h.separate
  have hjoined : list.toList = [','].intercalate (pieces.map String.toList) := by
    rw [h.joined, String.toList_intercalate]
    rfl
  rw [hjoined, split_intercalate hnonempty hseparate]

theorem pieces_split (list : String) :
    Pieces list ((Text.split ',' list.toList).map String.ofList) := by
  constructor
  case nonempty => simpa using split_ne_nil ',' list.toList
  case separate =>
    intro piece hpiece
    obtain ⟨cs, hcs, rfl⟩ := List.mem_map.1 hpiece
    rw [String.toList_ofList]
    exact not_mem_of_mem_split hcs
  case joined =>
    have htoList : String.toList ∘ String.ofList = id := funext fun _ => String.toList_ofList
    rw [← String.toList_inj, String.toList_intercalate, List.map_map, htoList, List.map_id]
    exact (intercalate_split ',' list.toList).symm

/-- A list has the entries that are read from it, and no others. -/
theorem entriesOf_iff {list : String} {es : List String} :
    EntriesOf list es ↔ entries list = es := by
  have hentries {pieces : List String} (h : Pieces list pieces) :
      entries list = (pieces.map trim).filter (· ≠ "") := by
    unfold entries
    rw [h.split, List.map_map]
    rfl
  constructor
  · intro h
    obtain ⟨pieces, hpieces, rfl⟩ := h
    exact hentries hpieces
  · intro h
    subst h
    exact ⟨_, pieces_split list, hentries (pieces_split list)⟩

/-- **One list after the other.** -/
theorem entries_append (a b : String) : entries (a ++ "," ++ b) = entries a ++ entries b := by
  have hlist : (a ++ "," ++ b).toList = a.toList ++ ',' :: b.toList := by
    simp [String.toList_append]
  unfold entries
  rw [hlist, split_append_separator, List.map_append, List.filter_append]

/-! ## What entries are, and how they are written -/

/-- A text that can be an entry. -/
structure IsEntry (e : String) : Prop where
  trimmed : Trimmed e
  nonempty : e ≠ ""
  separate : ',' ∉ e.toList

instance (e : String) : Decidable (IsEntry e) :=
  decidable_of_iff (trim e = e ∧ e ≠ "" ∧ ',' ∉ e.toList)
    ⟨fun h => ⟨trim_eq_self_iff.1 h.1, h.2.1, h.2.2⟩,
      fun h => ⟨trim_eq_self_iff.2 h.trimmed, h.nonempty, h.separate⟩⟩

/-- Pieces that are the entries in their order, each with white space around it, and blank pieces
among them. -/
inductive Padded : List String → List String → Prop
  | nil : Padded [] []
  | blank {piece : String} {es pieces : List String} : allBlank piece = true →
      Padded es pieces → Padded es (piece :: pieces)
  | entry (before e after : String) {es pieces : List String} : allBlank before = true →
      allBlank after = true → Padded es pieces →
      Padded (e :: es) ((before ++ e ++ after) :: pieces)

theorem comma_not_mem_of_allBlank {s : String} (h : allBlank s = true) : ',' ∉ s.toList := by
  intro hmem
  have hblank : isBlank ',' = true := allBlank_iff.1 h ',' hmem
  exact absurd hblank (by decide)

/-- What is left of pieces after trimming are the entries that the pieces pad. -/
theorem padded_trim (pieces : List String) :
    Padded ((pieces.map trim).filter (· ≠ "")) pieces := by
  induction pieces with
  | nil => exact .nil
  | cons piece pieces ih =>
    rw [List.map_cons]
    by_cases hpiece : trim piece = ""
    · rw [List.filter_cons_of_neg (by simpa using hpiece)]
      exact .blank (trim_eq_empty_iff.1 hpiece) ih
    · rw [List.filter_cons_of_pos (by simpa using hpiece)]
      obtain ⟨before, after, hbefore, hafter, hsplit⟩ := exists_eq_trim_between piece
      have hentry := Padded.entry before (trim piece) after hbefore hafter ih
      rwa [← hsplit] at hentry

variable {es pieces : List String}

/-- Padding is taken away again. -/
theorem Padded.filter_trim (h : Padded es pieces) (hes : ∀ e ∈ es, IsEntry e) :
    (pieces.map trim).filter (· ≠ "") = es := by
  induction h with
  | nil => rfl
  | blank hpiece _ ih =>
    rw [List.map_cons, trim_eq_empty_iff.2 hpiece, List.filter_cons_of_neg (by simp), ih hes]
  | entry before e after hbefore hafter _ ih =>
    obtain ⟨he, hes⟩ := List.forall_mem_cons.1 hes
    rw [List.map_cons, trim_append hbefore hafter he.trimmed,
      List.filter_cons_of_pos (by simpa using he.nonempty), ih hes]

/-- No comma comes in with the padding. -/
theorem Padded.separate (h : Padded es pieces) (hes : ∀ e ∈ es, IsEntry e) :
    ∀ piece ∈ pieces, ',' ∉ piece.toList := by
  induction h with
  | nil => exact nofun
  | blank hpiece _ ih =>
    exact List.forall_mem_cons.2 ⟨comma_not_mem_of_allBlank hpiece, ih hes⟩
  | entry before e after hbefore hafter _ ih =>
    obtain ⟨he, hes⟩ := List.forall_mem_cons.1 hes
    refine List.forall_mem_cons.2 ⟨fun hmem => ?_, ih hes⟩
    rw [String.toList_append, String.toList_append] at hmem
    rcases List.mem_append.1 hmem with hmem | hmem
    · rcases List.mem_append.1 hmem with hmem | hmem
      · exact comma_not_mem_of_allBlank hbefore hmem
      · exact he.separate hmem
    · exact comma_not_mem_of_allBlank hafter hmem

/-- **Entries are read back**, however they are padded. -/
theorem entries_padded (hes : ∀ e ∈ es, IsEntry e) (h : Padded es pieces) :
    entries (",".intercalate pieces) = es := by
  by_cases hne : pieces = []
  · subst hne
    cases h
    rfl
  · exact entriesOf_iff.1 ⟨pieces, ⟨hne, h.separate hes, rfl⟩, (h.filter_trim hes).symm⟩

/-- Entries pad themselves with nothing. -/
theorem padded_self (es : List String) : Padded es es := by
  induction es with
  | nil => exact .nil
  | cons e es ih =>
    have hentry := Padded.entry "" e "" rfl rfl ih
    rwa [String.empty_append, String.append_empty] at hentry

theorem entries_intercalate (hes : ∀ e ∈ es, IsEntry e) : entries (",".intercalate es) = es :=
  entries_padded hes (padded_self es)

theorem isEntry_of_mem_entries {list e : String} (h : e ∈ entries list) : IsEntry e := by
  obtain ⟨pieces, hpieces, hes⟩ := entriesOf_iff.2 (rfl : entries list = entries list)
  rw [hes] at h
  obtain ⟨htrim, hne⟩ := List.mem_filter.1 h
  obtain ⟨piece, hpiece, rfl⟩ := List.mem_map.1 htrim
  refine ⟨trimmed_trim piece, of_decide_eq_true hne, fun hmem => ?_⟩
  obtain ⟨before, after, -, -, hsplit⟩ := exists_eq_trim_between piece
  apply hpieces.separate piece hpiece
  rw [hsplit, String.toList_append, String.toList_append]
  exact List.mem_append_left _ (List.mem_append_right _ hmem)

/-- **What the entries of a list are.** They are texts that can be entries, and the list is written
by padding them; no other texts are like this. -/
theorem entries_eq_iff {list : String} : entries list = es ↔
    (∀ e ∈ es, IsEntry e) ∧ ∃ pieces, Padded es pieces ∧ list = ",".intercalate pieces := by
  constructor
  · intro h
    subst h
    obtain ⟨pieces, hpieces, hes⟩ := entriesOf_iff.2 (rfl : entries list = entries list)
    refine ⟨fun e => isEntry_of_mem_entries, pieces, ?_, hpieces.joined⟩
    rw [hes]
    exact padded_trim pieces
  · intro h
    obtain ⟨hes, pieces, hpadded, rfl⟩ := h
    exact entries_padded hes hpadded

end Rulebook.Text
