import Rulebook.Check.Policy
import Rulebook.Proofs.Entries
import Rulebook.Proofs.Failures

/-!
# Reading failure policies

A failure policy is written as a list of names of conditions.

**Theorem (`parse_eq_error_iff`).** A list is refused for the first name in it that is the name of
no condition, and for nothing else.

The names are read one by one, so the theorem is an instance of what it means for a list of items to
be read (`mapM_eq_error_iff`), which is an induction on the items.
-/

namespace Rulebook

section Items

variable {α β ε : Type} {f : α → Except ε β}

/-- A list is refused for its first item, or else for the rest of it. -/
theorem mapM_cons_eq_error_iff {a : α} {as : List α} {e : ε} :
    (a :: as).mapM f = .error e ↔
      f a = .error e ∨ (∃ c, f a = .ok c) ∧ as.mapM f = .error e := by
  have hcons (c : β) (cs : List β) :
      (pure (c :: cs) : Except ε (List β)) = .error e ↔ False := by
    simp [pure, Except.pure]
  rw [List.mapM_cons]
  simp only [bind_eq_error_iff, hcons, and_false, exists_false, or_false, exists_and_right]

/-- A list is refused for the first of its items that is refused. -/
theorem mapM_eq_error_iff {as : List α} {e : ε} :
    as.mapM f = .error e ↔ ∃ before a after, as = before ++ a :: after ∧
      (∀ b ∈ before, ∃ c, f b = .ok c) ∧ f a = .error e := by
  induction as with
  | nil =>
    refine iff_of_false (fun h => by cases h) fun h => ?_
    obtain ⟨before, a, after, hsplit, -⟩ := h
    cases before <;> cases hsplit
  | cons a as ih =>
    rw [mapM_cons_eq_error_iff, ih]
    constructor
    · intro h
      rcases h with ha | ⟨ha, before, b, after, rfl, hbefore, hb⟩
      · exact ⟨[], a, as, rfl, fun b hb => absurd hb List.not_mem_nil, ha⟩
      · exact ⟨a :: before, b, after, rfl, List.forall_mem_cons.2 ⟨ha, hbefore⟩, hb⟩
    · intro h
      obtain ⟨before, b, after, hsplit, hbefore, hb⟩ := h
      cases before with
      | nil =>
        cases hsplit
        exact .inl hb
      | cons b' before =>
        cases hsplit
        obtain ⟨ha, hbefore⟩ := List.forall_mem_cons.1 hbefore
        exact .inr ⟨ha, before, b, after, rfl, hbefore, hb⟩

end Items

namespace FailureCondition

theorem ofToken?_eq_some_iff {s : String} {c : FailureCondition} :
    ofToken? s = some c ↔ c.token = s := by
  constructor
  · intro h
    simpa using List.find?_some h
  · intro h
    subst h
    cases c <;> decide

theorem parse_eq_ok_iff {s : String} {c : FailureCondition} : parse s = .ok c ↔ c.token = s := by
  rw [← ofToken?_eq_some_iff]
  unfold parse
  cases ofToken? s <;> simp

/-- A name is refused when it is the name of no condition. -/
theorem parse_eq_error_iff {s : String} {e : UnknownCondition} :
    parse s = .error e ↔ e.token = s ∧ ∀ c : FailureCondition, c.token ≠ s := by
  cases hs : parse s with
  | ok c =>
    have hc : c.token = s := parse_eq_ok_iff.1 hs
    simp only [reduceCtorEq, false_iff, not_and]
    exact fun _ hne => hne c hc
  | error e' =>
    have hne : ∀ c : FailureCondition, c.token ≠ s := by
      intro c hc
      cases hs.symm.trans (parse_eq_ok_iff.2 hc)
    have he' : e' = ⟨s⟩ := by
      unfold parse at hs
      split at hs
      · cases hs
      · exact (Except.error.inj hs).symm
    subst he'
    constructor
    · intro h
      cases h
      exact ⟨rfl, hne⟩
    · intro h
      obtain ⟨rfl, -⟩ := h
      rfl

end FailureCondition

namespace FailurePolicy

/-- Of the names in a list, the first that is the name of no condition. -/
structure FirstUnknown (flag token : String) : Prop where
  first : ∃ before after, Text.EntriesOf flag (before ++ token :: after) ∧
    ∀ known ∈ before, ∃ c : FailureCondition, c.token = known
  unknown : ∀ c : FailureCondition, c.token ≠ token

/-- **The first unknown name is told.** -/
theorem parse_eq_error_iff {flag : String} {e : UnknownCondition} :
    parse flag = .error e ↔ FirstUnknown flag e.token := by
  have hparse : parse flag = .error e ↔
      (Text.entries flag).mapM FailureCondition.parse = .error e := by
    unfold parse
    cases (Text.entries flag).mapM FailureCondition.parse <;> simp [Functor.map, Except.map]
  rw [hparse, mapM_eq_error_iff]
  simp only [FailureCondition.parse_eq_ok_iff, FailureCondition.parse_eq_error_iff]
  constructor
  · intro h
    obtain ⟨before, token, after, hsplit, hbefore, rfl, hunknown⟩ := h
    exact ⟨⟨before, after, Text.entriesOf_iff.2 hsplit, hbefore⟩, hunknown⟩
  · intro h
    obtain ⟨⟨before, after, hentries, hbefore⟩, hunknown⟩ := h
    exact ⟨before, e.token, after, Text.entriesOf_iff.1 hentries, hbefore, rfl, hunknown⟩

end FailurePolicy

end Rulebook
