import Rulebook.Proofs.ByteOrder
import Rulebook.Unit.LineIndex
import Mathlib.Data.List.Basic

/-!
# Where an offset lies

`Located` says of a line and a column that they are those of an offset, by counting bytes: the line
is one more than the line feeds before the offset, and the column one more than the bytes between
the last of these and the offset. Offsets past the end of the text are no exception.

**Theorems (`located_position`, `position_lt_position`).** A line index gives every offset the line
and the column that counting gives it, and of two offsets the smaller one has the earlier position.

An index finds the line of an offset by a search among the starts of lines. The search ends where
the starts up to the offset end (`le_lineAt_iff`), so it finds as many lines as there are line feeds
before the offset (`lineAt_eq_count`), and the last of the starts that are not past the offset.
-/

namespace Rulebook

/-! ## The starts of lines -/

theorem mem_lineStarts {text : String} {s : Nat} :
    s ∈ lineStarts text ↔
      s = 0 ∨ ∃ k, s = k + 1 ∧ text.toUTF8.toList[k]? = some '\n'.toUInt8 := by
  unfold lineStarts
  rw [List.mem_cons]
  simp only [List.mem_map, List.mem_filter, List.mem_zipIdx_iff_getElem?, decide_eq_true_eq]
  constructor
  · rintro (rfl | ⟨⟨b, k⟩, ⟨hk, hb⟩, rfl⟩)
    · exact .inl rfl
    · exact .inr ⟨k, rfl, hb ▸ hk⟩
  · rintro (rfl | ⟨k, rfl, hk⟩)
    · exact .inl rfl
    · exact .inr ⟨(_, k), ⟨hk, rfl⟩, rfl⟩

/-- No line starts past the end of the text. -/
theorem le_size_of_mem_lineStarts {text : String} {s : Nat} (h : s ∈ lineStarts text) :
    s ≤ text.utf8ByteSize := by
  rcases mem_lineStarts.1 h with rfl | ⟨k, rfl, hk⟩
  · exact Nat.zero_le _
  · rw [Text.toList_toUTF8] at hk
    obtain ⟨hlt, -⟩ := List.getElem?_eq_some_iff.1 hk
    exact hlt

theorem pairwise_lineStarts (text : String) : (lineStarts text).Pairwise (· < ·) := by
  have hindex : (text.toUTF8.toList.zipIdx.map Prod.snd).Pairwise (· < ·) := by
    rw [List.zipIdx_map_snd]
    exact List.pairwise_lt_range' 1
  unfold lineStarts
  refine List.pairwise_cons.2 ⟨fun s hs => ?_, ?_⟩
  · obtain ⟨b, -, rfl⟩ := List.mem_map.1 hs
    exact Nat.succ_pos _
  · refine List.pairwise_map.2 (((List.pairwise_map.1 hindex).filter _).imp ?_)
    exact fun h => Nat.add_lt_add_right h 1

theorem length_starts_zipIdx (feed : UInt8) (bs : List UInt8) (k offset : Nat) :
    ((((bs.zipIdx k).filter fun b => b.1 = feed).map fun b => b.2 + 1).filter
      (· ≤ offset)).length = (bs.take (offset - k)).count feed := by
  induction bs generalizing k with
  | nil => simp
  | cons b bs ih =>
    have hrest := ih (k + 1)
    by_cases hk : offset ≤ k
    · have h0 : offset - k = 0 := by omega
      have h1 : offset - (k + 1) = 0 := by omega
      rw [h1, List.take_zero, List.count_nil] at hrest
      rw [h0, List.take_zero, List.count_nil, List.zipIdx_cons, List.filter_cons]
      split
      · rw [List.map_cons, List.filter_cons, if_neg (by simp; omega)]
        exact hrest
      · exact hrest
    · have h1 : offset - k = offset - (k + 1) + 1 := by omega
      have hle : k + 1 ≤ offset := by omega
      rw [h1, List.take_succ_cons, List.count_cons, ← hrest, List.zipIdx_cons, List.filter_cons]
      by_cases hb : b = feed <;> simp [hb, hle]

/-- The line of an offset is one more than the number of line feeds before it. -/
theorem lineOf_eq_count (text : String) (offset : Nat) :
    lineOf text offset = (text.toUTF8.toList.take offset).count '\n'.toUInt8 + 1 := rfl

/-- There are as many lines up to an offset as its line says. -/
theorem length_filter_lineStarts (text : String) (offset : Nat) :
    ((lineStarts text).filter (· ≤ offset)).length = lineOf text offset := by
  unfold lineStarts
  rw [List.filter_cons_of_pos (by simp), List.length_cons, length_starts_zipIdx, Nat.sub_zero]
  rfl

theorem filter_le_eq_take {starts : List Nat} {n offset : Nat}
    (h : ∀ (i : Nat) (hi : i < starts.length), i < n ↔ starts[i] ≤ offset) :
    starts.filter (· ≤ offset) = starts.take n := by
  have htake : (starts.take n).filter (· ≤ offset) = starts.take n := by
    refine List.filter_eq_self.2 fun s hs => ?_
    obtain ⟨i, hi, rfl⟩ := List.mem_iff_getElem.1 hs
    rw [List.length_take] at hi
    rw [List.getElem_take]
    simpa using (h i (by omega)).1 (by omega)
  have hdrop : (starts.drop n).filter (· ≤ offset) = [] := by
    refine List.filter_eq_nil_iff.2 fun s hs => ?_
    obtain ⟨i, hi, rfl⟩ := List.mem_iff_getElem.1 hs
    rw [List.length_drop] at hi
    rw [List.getElem_drop]
    intro hle
    have := (h (n + i) (by omega)).2 (by simpa using hle)
    omega
  conv => lhs; rw [← List.take_append_drop n starts]
  rw [List.filter_append, htake, hdrop, List.append_nil]

/-! ## Lines -/

namespace LineIndex

variable (path source : String)

theorem increasing_starts : Increasing (ofSource path source).starts := by
  unfold Increasing ofSource
  rw [List.toList_toArray]
  exact pairwise_lineStarts source

theorem mem_starts {s : Nat} : s ∈ (ofSource path source).starts ↔ s ∈ lineStarts source :=
  List.mem_toArray

theorem size_starts_pos : 0 < (ofSource path source).starts.size := Nat.succ_pos _

theorem lineAt_eq (ix : LineIndex) (offset : Nat) :
    ix.lineAt offset = (binarySearch ix.starts offset).count - 1 := by
  unfold lineAt
  split
  · next h => rw [h]; rfl
  · next h => rw [h]; rfl

/-- The text begins at or before every offset. -/
theorem count_pos (offset : Nat) : 0 < (binarySearch (ofSource path source).starts offset).count :=
  (lt_count_binarySearch_iff (increasing_starts path source) (size_starts_pos path source)).2
    (Nat.zero_le offset)

theorem lineAt_lt_size (offset : Nat) :
    (ofSource path source).lineAt offset < (ofSource path source).starts.size := by
  have hpos := count_pos path source offset
  have hle := count_binarySearch_le (ofSource path source).starts offset
  rw [lineAt_eq]
  omega

/-- The lines up to that of an offset are those that start at or before it. -/
theorem le_lineAt_iff {i offset : Nat} (hi : i < (ofSource path source).starts.size) :
    i ≤ (ofSource path source).lineAt offset ↔ (ofSource path source).starts[i] ≤ offset := by
  rw [← lt_count_binarySearch_iff (increasing_starts path source) hi, lineAt_eq]
  have hpos := count_pos path source offset
  omega

/-- An offset lies on the line that as many line feeds come before. -/
theorem lineAt_eq_count (offset : Nat) : (ofSource path source).lineAt offset =
    (source.toUTF8.toList.take offset).count '\n'.toUInt8 := by
  have hlt : (ofSource path source).lineAt offset + 1 ≤ (lineStarts source).length :=
    lineAt_lt_size path source offset
  have htake : (lineStarts source).filter (· ≤ offset) =
      (lineStarts source).take ((ofSource path source).lineAt offset + 1) :=
    filter_le_eq_take fun i hi => Nat.lt_succ_iff.trans (le_lineAt_iff path source hi)
  have hlength := length_filter_lineStarts source offset
  rw [htake, List.length_take, Nat.min_eq_left hlt] at hlength
  exact Nat.succ.inj hlength

/-- Where the line of an offset starts. -/
def startAt (ix : LineIndex) (offset : Nat) : Nat := ix.starts.getD (ix.lineAt offset) 0

theorem startAt_of_lt {ix : LineIndex} {offset : Nat} (h : ix.lineAt offset < ix.starts.size) :
    ix.startAt offset = ix.starts[ix.lineAt offset] := dif_pos h

theorem startAt_le (offset : Nat) : (ofSource path source).startAt offset ≤ offset := by
  have hlt := lineAt_lt_size path source offset
  rw [startAt_of_lt hlt]
  exact (le_lineAt_iff path source hlt).1 (Nat.le_refl _)

theorem startAt_mem (offset : Nat) : (ofSource path source).startAt offset ∈ lineStarts source := by
  rw [startAt_of_lt (lineAt_lt_size path source offset), ← mem_starts path]
  exact Array.getElem_mem _

/-- A line starts after as many bytes as there are lines before it, if not more. -/
theorem lineAt_le_startAt (offset : Nat) :
    (ofSource path source).lineAt offset ≤ (ofSource path source).startAt offset := by
  have hlt := lineAt_lt_size path source offset
  rw [startAt_of_lt hlt]
  exact (increasing_starts path source).le_getElem hlt

/-- No line starts later without being past the offset. -/
theorem le_startAt {s offset : Nat} (hs : s ∈ lineStarts source) (hle : s ≤ offset) :
    s ≤ (ofSource path source).startAt offset := by
  obtain ⟨i, hi, rfl⟩ := Array.mem_iff_getElem.1 ((mem_starts path source).2 hs)
  rw [startAt_of_lt (lineAt_lt_size path source offset)]
  exact (increasing_starts path source).getElem_le ((le_lineAt_iff path source hi).2 hle) _

end LineIndex

/-! ## Positions -/

/-- A position is that of an offset into a text: the line is one more than the line feeds before the
offset, and the column one more than the bytes since the line began. -/
structure Located (text : String) (offset : Nat) (p : Position) : Prop where
  line : p.line = (text.toUTF8.toList.take offset).count '\n'.toUInt8 + 1
  column : ∃ start ≤ offset, p.column = offset - start + 1 ∧
    (start = 0 ∨ text.toUTF8.toList[start - 1]? = some '\n'.toUInt8) ∧
    ∀ k, start ≤ k → k < offset → text.toUTF8.toList[k]? ≠ some '\n'.toUInt8

/-- By line, and by column within a line. -/
instance : LE Position := ⟨fun p q => p.line < q.line ∨ p.line = q.line ∧ p.column ≤ q.column⟩

/-- By line, and by column within a line. -/
instance : LT Position := ⟨fun p q => p.line < q.line ∨ p.line = q.line ∧ p.column < q.column⟩

namespace LineIndex

variable (path source : String)

/-- **Positions are counted right.** -/
theorem located_position (offset : Nat) :
    Located source offset ((ofSource path source).position offset) where
  line := congrArg (· + 1) (lineAt_eq_count path source offset)
  column := by
    refine ⟨(ofSource path source).startAt offset, startAt_le path source offset, rfl, ?_, ?_⟩
    · refine (mem_lineStarts.1 (startAt_mem path source offset)).imp_right ?_
      rintro ⟨k, hk, hfeed⟩
      rw [hk]
      exact hfeed
    · -- A line feed in between would begin a line of its own.
      intro k hk hlt hfeed
      have hstart : k + 1 ∈ lineStarts source := mem_lineStarts.2 (.inr ⟨k, rfl, hfeed⟩)
      have hle := le_startAt path source hstart hlt
      omega

/-- **Positions follow offsets.** On one line the column tells the offsets apart. -/
theorem position_lt_position {a b : Nat} (h : a < b) :
    (ofSource path source).position a < (ofSource path source).position b := by
  have hle : (ofSource path source).lineAt a ≤ (ofSource path source).lineAt b := by
    have hlt := lineAt_lt_size path source a
    have ha := (le_lineAt_iff path source hlt).1 (Nat.le_refl _)
    exact (le_lineAt_iff path source hlt).2 (by omega)
  rcases Nat.lt_or_eq_of_le hle with hlt | heq
  · exact .inl (Nat.succ_lt_succ hlt)
  · have hstart : (ofSource path source).startAt a = (ofSource path source).startAt b :=
      congrArg ((ofSource path source).starts.getD · 0) heq
    have ha := startAt_le path source a
    refine .inr ⟨congrArg (· + 1) heq, ?_⟩
    show a - (ofSource path source).startAt a + 1 < b - (ofSource path source).startAt b + 1
    omega

theorem position_le_position {a b : Nat} (h : a ≤ b) :
    (ofSource path source).position a ≤ (ofSource path source).position b := by
  rcases Nat.lt_or_eq_of_le h with hlt | rfl
  · exact (position_lt_position path source hlt).imp_right fun ⟨hline, hcolumn⟩ =>
      ⟨hline, Nat.le_of_lt hcolumn⟩
  · exact .inr ⟨rfl, Nat.le_refl _⟩

/-- No byte before an offset counts both for its line and for its column. -/
theorem line_add_column_le (offset : Nat) :
    ((ofSource path source).position offset).line +
      ((ofSource path source).position offset).column ≤ offset + 2 := by
  have hline := lineAt_le_startAt path source offset
  have hstart := startAt_le path source offset
  show (ofSource path source).lineAt offset + 1 +
    (offset - (ofSource path source).startAt offset + 1) ≤ offset + 2
  omega

/-- The line and the column of a 32-bit offset fit 32 bits, those of the last one if neither is the
first. -/
theorem position_fits {offset : Nat} (hoffset : offset < UInt32.size)
    (h : offset + 1 < UInt32.size ∨ 1 < ((ofSource path source).position offset).line ∧
      1 < ((ofSource path source).position offset).column) :
    ((ofSource path source).position offset).line < UInt32.size ∧
      ((ofSource path source).position offset).column < UInt32.size := by
  have hsum := line_add_column_le path source offset
  have hline : 0 < ((ofSource path source).position offset).line := Nat.succ_pos _
  have hcolumn : 0 < ((ofSource path source).position offset).column := Nat.succ_pos _
  omega

/-- The offset that has a position: the start of its line with the bytes up to its column. -/
def offsetOf (ix : LineIndex) (p : Position) : Nat :=
  ix.starts.getD (p.line - 1) 0 + (p.column - 1)

theorem offsetOf_position (offset : Nat) :
    (ofSource path source).offsetOf ((ofSource path source).position offset) = offset := by
  have hle := startAt_le path source offset
  show (ofSource path source).startAt offset + (offset - (ofSource path source).startAt offset) =
    offset
  omega

/-- **Positions.** An index of a text gives each offset, also one past the end of the text, the line
and the column that counting bytes gives it, and its line is the one that errors in the text are
reported on. A greater offset has a later position, and the position tells which offset it is of.
No number that is kept or counted is larger than the text and the offset allow. So 32 bits hold the
starts of a text that is shorter than they can count, and the line and the column of every offset
that they hold, but for the last offset if that lies on the first line or at the start of one. -/
theorem position_counts (path source : String) :
    (∀ offset, Located source offset ((ofSource path source).position offset) ∧
      ((ofSource path source).position offset).line = lineOf source offset) ∧
    (∀ a b, a < b → (ofSource path source).position a < (ofSource path source).position b) ∧
    (∀ offset, (ofSource path source).offsetOf ((ofSource path source).position offset) = offset) ∧
    (∀ s ∈ (ofSource path source).starts, s ≤ source.utf8ByteSize) ∧
    (∀ offset, ((ofSource path source).position offset).line ≤ source.utf8ByteSize + 1 ∧
      ((ofSource path source).position offset).column ≤ offset + 1) ∧
    (source.utf8ByteSize < UInt32.size → ∀ s ∈ (ofSource path source).starts, s < UInt32.size) ∧
    ∀ offset, offset < UInt32.size →
      (offset + 1 < UInt32.size ∨ 1 < ((ofSource path source).position offset).line ∧
        1 < ((ofSource path source).position offset).column) →
      ((ofSource path source).position offset).line < UInt32.size ∧
        ((ofSource path source).position offset).column < UInt32.size := by
  refine ⟨fun offset => ?_, fun a b h => ?_, fun offset => ?_, fun s hs => ?_, fun offset => ?_,
    fun hsize s hs => ?_, fun offset => position_fits path source⟩
  · have hlocated := located_position path source offset
    exact ⟨hlocated, hlocated.line.trans (lineOf_eq_count source offset).symm⟩
  · exact position_lt_position path source h
  · exact offsetOf_position path source offset
  · exact le_size_of_mem_lineStarts ((mem_starts path source).1 hs)
  · have hline := (located_position path source offset).line
    have hcount := List.count_le_length (l := source.toUTF8.toList.take offset) (a := '\n'.toUInt8)
    have hlength := List.length_take_le' offset source.toUTF8.toList
    have hsize : source.toUTF8.toList.length = source.utf8ByteSize := by
      rw [Text.toList_toUTF8]
      rfl
    exact ⟨by omega, Nat.add_le_add_right (Nat.sub_le offset _) 1⟩
  · exact Nat.lt_of_le_of_lt (le_size_of_mem_lineStarts ((mem_starts path source).1 hs)) hsize

end LineIndex

end Rulebook
