import Rulebook.Sorted.Map

/-!
# Sets in order

A set is the list of its members in strictly increasing order.
-/

namespace Rulebook

/-- A set as its members in increasing order. -/
structure SortedSet (κ : Type) [LT κ] where
  toList : List κ
  sorted : toList.Pairwise (· < ·)

namespace SortedSet

variable {κ : Type} [LT κ]

instance : EmptyCollection (SortedSet κ) := ⟨⟨[], .nil⟩⟩

instance : Inhabited (SortedSet κ) := ⟨∅⟩

@[ext]
theorem ext {s t : SortedSet κ} (h : s.toList = t.toList) : s = t := by
  cases s; cases t; cases h; rfl

instance [DecidableEq κ] : DecidableEq (SortedSet κ) := fun s t =>
  if h : s.toList = t.toList then isTrue (ext h) else isFalse (fun e => h (e ▸ rfl))

/-- The keys of a map. -/
def ofKeys {α : Type} (m : SortedMap κ α) : SortedSet κ :=
  ⟨m.keys, List.pairwise_map.2 m.sorted⟩

def contains [DecidableEq κ] (s : SortedSet κ) (k : κ) : Bool := s.toList.contains k

section Order

variable [LE κ] [DecidableLT κ] [Std.IsLinearOrder κ] [Std.LawfulOrderLT κ]

/-- The members of a list, each once. -/
def ofList (ks : List κ) : SortedSet κ := ofKeys (SortedMap.ofList (ks.map fun k => (k, ())))

/-- The members of a set make up the set. -/
theorem ofList_toList [DecidableEq κ] (s : SortedSet κ) : ofList s.toList = s := by
  have hsorted : (s.toList.map fun k => (k, ())).Pairwise fun a b => a.1 < b.1 :=
    List.pairwise_map.2 s.sorted
  have hmap := SortedMap.ofList_of_perm (m := ⟨_, hsorted⟩) (List.Perm.refl _)
  refine ext ?_
  unfold ofList ofKeys
  rw [hmap]
  simp [SortedMap.keys, Function.comp_def]

end Order

end SortedSet

end Rulebook
