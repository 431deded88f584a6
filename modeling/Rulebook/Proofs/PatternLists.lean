import Rulebook.Check.Settings
import Rulebook.Proofs.Entries

/-!
# Lists of patterns

The rule files to check with are named by a list of patterns with commas between them.

**Theorem (`parseList_texts`).** Lists one after the other give the patterns of both. The texts of
the patterns are trimmed, they are not empty and have no commas, and the list is these texts with
white space around them and blank pieces among them. Any texts like these are read back from such a
list, in their order, and so are the patterns of a list when they are written with commas between
them.

The texts of the patterns are the entries of the list (`map_text_parseList`): a pattern trims its
text once more, which changes nothing about an entry.
-/

namespace Rulebook

namespace RulePattern

/-- The texts of the patterns are the entries: trimming these once more changes nothing. -/
theorem map_text_parseList (list : String) : (parseList list).map text = Text.entries list := by
  have htrim : ∀ e ∈ Text.entries list, Text.trim e = id e := by
    intro e he
    exact Text.trim_eq_self_iff.2 (Text.isEntry_of_mem_entries he).trimmed
  calc (parseList list).map text
    _ = (Text.entries list).map Text.trim := List.map_map ..
    _ = (Text.entries list).map id := List.map_congr_left htrim
    _ = Text.entries list := List.map_id _

/-- **One list after the other.** -/
theorem parseList_append (a b : String) :
    parseList (a ++ "," ++ b) = parseList a ++ parseList b := by
  unfold parseList
  rw [Text.entries_append, List.map_append]

/-- **Patterns that are written with commas are read back.** -/
theorem parseList_intercalate (list : String) :
    parseList (",".intercalate ((parseList list).map text)) = parseList list := by
  rw [map_text_parseList]
  unfold parseList
  rw [Text.entries_intercalate fun e => Text.isEntry_of_mem_entries]

/-- **Lists of patterns.** Lists one after the other give the patterns of both. Every pattern is an
entry of its own: trimmed, not empty, and without commas. Such texts are what is read from any list
that is written by padding them, and every list is written by padding the texts of its patterns.
Patterns that are written with commas in between are read back. -/
theorem parseList_texts (a b : String) :
    parseList (a ++ "," ++ b) = parseList a ++ parseList b ∧
    (∀ p ∈ parseList a, Text.IsEntry p.text) ∧
    (∀ es pieces, (∀ e ∈ es, Text.IsEntry e) → Text.Padded es pieces →
      (parseList (",".intercalate pieces)).map text = es) ∧
    (∃ pieces, Text.Padded ((parseList a).map text) pieces ∧ a = ",".intercalate pieces) ∧
    parseList (",".intercalate ((parseList a).map text)) = parseList a := by
  obtain ⟨hentries, hpieces⟩ := Text.entries_eq_iff.1 (map_text_parseList a).symm
  refine ⟨parseList_append a b, ?_, ?_, hpieces, parseList_intercalate a⟩
  case refine_1 =>
    intro p hp
    exact hentries p.text (List.mem_map_of_mem hp)
  case refine_2 =>
    intro es pieces hes hpadded
    rw [map_text_parseList, Text.entries_padded hes hpadded]

/-- Two entries with white space of several kinds around them, and two blank pieces after them. -/
def widePieces : List String := ["\u3000a.toml", " b c/*.toml\u00a0", " ", ""]

/-- The two entries are read back from the wide list, which gives the patterns of the list without
any padding; one list after the other gives the patterns twice. -/
theorem parseList_texts_wide :
    (∀ e ∈ ["a.toml", "b c/*.toml"], Text.IsEntry e) ∧
    Text.Padded ["a.toml", "b c/*.toml"] widePieces ∧
    (parseList (",".intercalate widePieces)).map text = ["a.toml", "b c/*.toml"] ∧
    parseList "a.toml,b c/*.toml" = parseList (",".intercalate widePieces) ∧
    (parseList (",".intercalate widePieces ++ "," ++ "a.toml,b c/*.toml")).map text =
      ["a.toml", "b c/*.toml", "a.toml", "b c/*.toml"] := by
  have hentries : ∀ e ∈ ["a.toml", "b c/*.toml"], Text.IsEntry e := by decide
  have hpadded : Text.Padded ["a.toml", "b c/*.toml"] widePieces :=
    .entry "\u3000" "a.toml" "" rfl rfl
      (.entry " " "b c/*.toml" "\u00a0" rfl rfl (.blank rfl (.blank rfl .nil)))
  obtain ⟨happend, -, hread, -, hback⟩ :=
    parseList_texts (",".intercalate widePieces) "a.toml,b c/*.toml"
  have hwide := hread _ _ hentries hpadded
  have hplain : parseList "a.toml,b c/*.toml" = parseList (",".intercalate widePieces) := by
    rwa [hwide] at hback
  refine ⟨hentries, hpadded, hwide, hplain, ?_⟩
  rw [happend, List.map_append, hplain, hwide]
  rfl

end RulePattern

end Rulebook
