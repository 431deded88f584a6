import Rulebook.Proofs.Resolution

/-!
# Stricter policies

A policy is stricter than another when it has all its conditions. Whatever stops a resolution under
a policy stops it under a stricter one, so that strictness can only make it fail, and only earlier.

**Theorem (`resolve_of_stricter`).** What resolves under a policy resolves to the same under every
laxer one. Where it fails under a policy it fails under every stricter one, at the same step or at
one before it.

Both ends of the order of policies are special. Under the empty policy no file stops a resolution.
Under a policy that covers every failure each file that is left out would have stopped it.
-/

namespace Rulebook

namespace FailurePolicy

theorem isFatal_iff {p : FailurePolicy} {e : LoadError} :
    p.isFatal e = true ↔ ∃ c ∈ p.conditions, c.holds e = true := by
  simp only [isFatal, List.any_eq_true]

/-- A policy covers every failure: it has the condition for all of them, or both of the others. -/
def CoversAll (p : FailurePolicy) : Prop :=
  .all ∈ p.conditions ∨ .imports ∈ p.conditions ∧ .dsl ∈ p.conditions

/-- A failure is a failed import or a fault of the text, so two conditions are enough. -/
theorem isFatal_of_coversAll {p : FailurePolicy} (h : p.CoversAll) (e : LoadError) :
    p.isFatal e = true := by
  rw [isFatal_iff]
  rcases h with hall | ⟨himports, hdsl⟩
  · exact ⟨.all, hall, rfl⟩
  · cases hi : e.isImport with
    | true => exact ⟨.imports, himports, hi⟩
    | false => exact ⟨.dsl, hdsl, by simp [FailureCondition.holds, hi]⟩

end FailurePolicy

namespace Resolution

variable {fs : FileSystem} {ctx : ParseContext} {p q : FailurePolicy}

/-! ## Where a resolution fails -/

theorem Stops.mono (h : p.conditions ⊆ q.conditions) {s : Step} {e : CheckError}
    (hs : Stops fs ctx p s e) : Stops fs ctx q s e := by
  cases hs with
  | unmatched pattern => exact .unmatched pattern
  | fatal hfails hc hholds => exact .fatal hfails (h hc) hholds

/-- A resolution fails with a cause at the step that comes after certain others. -/
structure FailsAt (fs : FileSystem) (ctx : ParseContext) (policy : FailurePolicy)
    (patterns : List RulePattern) (engine : LoadedRules) (before : List Step) (e : CheckError) :
    Prop where
  result : resolve fs ctx policy patterns engine = .error e
  goesOn : ∀ s ∈ before, ∀ e', ¬ Stops fs ctx policy s e'
  stops : ∃ s after, steps fs patterns = before ++ s :: after ∧ Stops fs ctx policy s e

variable {patterns : List RulePattern} {engine : LoadedRules}

theorem failsAt_of_split {before after : List Step} {s : Step} {e : CheckError}
    (hsplit : steps fs patterns = before ++ s :: after)
    (hbefore : ∀ t ∈ before, stop? fs ctx p t = none) (hs : Stops fs ctx p s e) :
    FailsAt fs ctx p patterns engine before e := by
  refine ⟨?_, fun t ht => (stop?_eq_none_iff fs ctx p).1 (hbefore t ht), s, after, hsplit, hs⟩
  rw [resolve_eq_error_iff, List.findSome?_eq_some_iff]
  exact ⟨before, s, after, hsplit, (stop?_eq_some_iff fs ctx p).2 hs, hbefore⟩

theorem exists_failsAt {e : CheckError} (h : resolve fs ctx p patterns engine = .error e) :
    ∃ before, FailsAt fs ctx p patterns engine before e := by
  rw [resolve_eq_error_iff, List.findSome?_eq_some_iff] at h
  obtain ⟨before, s, after, hsplit, hs, hbefore⟩ := h
  exact ⟨before, failsAt_of_split hsplit hbefore ((stop?_eq_some_iff fs ctx p).1 hs)⟩

/-- **No later under a stricter policy.** Where a resolution fails, a step before that already
stops it under a stricter policy, or that step does. -/
theorem FailsAt.of_stricter (h : p.conditions ⊆ q.conditions) {before : List Step} {e : CheckError}
    (hfails : FailsAt fs ctx p patterns engine before e) :
    ∃ before' e', FailsAt fs ctx q patterns engine before' e' ∧ before' <+: before := by
  obtain ⟨s, after, hsplit, hs⟩ := hfails.stops
  cases hfirst : before.findSome? (stop? fs ctx q) with
  | none =>
    rw [List.findSome?_eq_none_iff] at hfirst
    exact ⟨before, e, failsAt_of_split hsplit hfirst (hs.mono h), List.prefix_refl before⟩
  | some e' =>
    obtain ⟨before', t, between, rfl, ht, hbefore'⟩ := List.findSome?_eq_some_iff.1 hfirst
    rw [List.append_assoc, List.cons_append] at hsplit
    have ht := (stop?_eq_some_iff fs ctx q).1 ht
    exact ⟨before', e', failsAt_of_split hsplit hbefore' ht, List.prefix_append before' _⟩

/-! ## What resolves -/

theorem resolve_eq_ok_of_laxer (h : p.conditions ⊆ q.conditions) {r : Resolution LoadedRules}
    (hok : resolve fs ctx q patterns engine = .ok r) :
    resolve fs ctx p patterns engine = .ok r := by
  rw [resolve_eq_ok_iff] at hok ⊢
  refine ⟨fun s hs => ?_, hok.2⟩
  have hnone := (stop?_eq_none_iff fs ctx q).1 (hok.1 s hs)
  exact (stop?_eq_none_iff fs ctx p).2 fun e hstops => hnone e (hstops.mono h)

/-- Under the empty policy only a pattern without a match stops a resolution. -/
theorem stops_lenient {s : Step} {e : CheckError} (h : Stops fs ctx .lenient s e) :
    ∃ pattern, s = .unmatched pattern ∧ e = .noMatchingFiles pattern := by
  cases h with
  | unmatched pattern => exact ⟨pattern, rfl, rfl⟩
  | fatal _ hc _ => cases hc

theorem mem_steps_unmatched {pattern : String} (h : .unmatched pattern ∈ steps fs patterns) :
    ∃ p ∈ patterns, p.text = pattern ∧ fs.glob p.text = .ok [] := by
  obtain ⟨p, hp, hs⟩ := List.mem_flatMap.1 h
  unfold stepsOf at hs
  split at hs
  · cases hs
  · next hglob =>
    cases List.mem_singleton.1 hs
    exact ⟨p, hp, rfl, hglob⟩
  · obtain ⟨file, -, hfile⟩ := List.mem_map.1 hs
    cases hfile

theorem lenient_failure {e : CheckError}
    (h : resolve fs ctx .lenient patterns engine = .error e) :
    ∃ p ∈ patterns, fs.glob p.text = .ok [] ∧ e = .noMatchingFiles p.text := by
  obtain ⟨before, hfails⟩ := exists_failsAt h
  obtain ⟨s, after, hsplit, hs⟩ := hfails.stops
  obtain ⟨pattern, rfl, rfl⟩ := stops_lenient hs
  have hmem : .unmatched pattern ∈ steps fs patterns := by
    rw [hsplit]
    exact List.mem_append_right before (List.mem_cons_self ..)
  obtain ⟨p, hp, rfl, hglob⟩ := mem_steps_unmatched hmem
  exact ⟨p, hp, hglob, rfl⟩

/-- A file that is left out has a failure that the policy does not cover. -/
theorem skipped_eq_nil_of_coversAll (hp : p.CoversAll) {r : Resolution LoadedRules}
    (hok : resolve fs ctx p patterns engine = .ok r) : r.skipped = [] := by
  obtain ⟨hnone, rfl⟩ := (resolve_eq_ok_iff fs ctx p).1 hok
  change failures fs ctx (matched fs patterns) = []
  refine List.eq_nil_iff_forall_not_mem.2 fun s hs => ?_
  obtain ⟨hfile, hfails⟩ := mem_failures hs
  obtain ⟨c, hc, hholds⟩ := FailurePolicy.isFatal_iff.1 (p.isFatal_of_coversAll hp s.error)
  have hgoesOn := (stop?_eq_none_iff fs ctx p).1 (hnone _ (file_mem_steps_iff.2 hfile))
  exact hgoesOn _ (.fatal hfails hc hholds)

/-- Only what is fatal under a policy matters for what resolves under it. -/
theorem resolve_congr_isFatal (h : ∀ e, p.isFatal e = q.isFatal e) :
    resolve fs ctx p patterns engine = resolve fs ctx q patterns engine := by
  have hstop : stop? fs ctx p = stop? fs ctx q := by
    funext s
    cases s with
    | unmatched pattern => rfl
    | file file => simp only [stop?, h]
  rw [resolve_eq, resolve_eq, hstop]

/-! ## The order of policies -/

/-- **Stricter policies fail no later.** What resolves under a policy resolves to the same engine,
the same loaded files and the same files left out under every laxer policy. If it fails under a
policy it fails under every stricter one, after no more steps. Under the empty policy the only
failure is a pattern without a match; under a policy that covers every failure nothing is left out;
and there is one such policy only, however it is written. -/
theorem resolve_of_stricter (fs : FileSystem) (ctx : ParseContext) (patterns : List RulePattern)
    (engine : LoadedRules) :
    (∀ p q : FailurePolicy, p.conditions ⊆ q.conditions →
      (∀ r, resolve fs ctx q patterns engine = .ok r →
        resolve fs ctx p patterns engine = .ok r) ∧
      ∀ e, resolve fs ctx p patterns engine = .error e →
        ∃ before, FailsAt fs ctx p patterns engine before e ∧
        ∃ before' e', FailsAt fs ctx q patterns engine before' e' ∧ before' <+: before) ∧
    (∀ e, resolve fs ctx .lenient patterns engine = .error e →
      ∃ p ∈ patterns, fs.glob p.text = .ok [] ∧ e = .noMatchingFiles p.text) ∧
    (∀ p : FailurePolicy, p.CoversAll →
      ∀ r, resolve fs ctx p patterns engine = .ok r → r.skipped = []) ∧
    resolve fs ctx (.ofConditions [.imports, .dsl]) patterns engine =
      resolve fs ctx (.ofConditions [.all]) patterns engine := by
  refine ⟨fun p q h => ⟨fun r => resolve_eq_ok_of_laxer h, fun e he => ?_⟩,
    fun e => lenient_failure, fun p hp r => skipped_eq_nil_of_coversAll hp, ?_⟩
  · obtain ⟨before, hfails⟩ := exists_failsAt he
    exact ⟨before, hfails, hfails.of_stricter h⟩
  · refine resolve_congr_isFatal fun e => ?_
    rw [FailurePolicy.isFatal_of_coversAll (.inr (by decide)),
      FailurePolicy.isFatal_of_coversAll (.inl (by decide))]

/-- A file that is too large, a pattern `gone` without a match, and empty files under all other
names. -/
def oversized : FileSystem where
  root := "/"
  isThere _ := .ok true
  read _ := .ok ""
  metadata path := .ok (.file (if path = "big" then 2 * maxRuleFileSize else 0))
  glob pattern := .ok (if pattern = "gone" then [] else [pattern])

/-- Under the laxer policy the large file is left out and the pattern after it fails; the stricter
one stops at the file. -/
theorem resolve_of_stricter_oversized :
    let p := FailurePolicy.ofConditions [.imports]
    let q := FailurePolicy.ofConditions [.imports, .dsl]
    let patterns := [RulePattern.mk "a", ⟨"big"⟩, ⟨"gone"⟩]
    p.conditions ⊆ q.conditions ∧
    ∃ before before' e, FailsAt oversized {} p patterns {} before (.noMatchingFiles "gone") ∧
      FailsAt oversized {} q patterns {} before' e ∧ before' <+: before ∧ e.file? = some "big" := by
  intro p q patterns
  have h : p.conditions ⊆ q.conditions := by decide
  have hp : resolve oversized {} p patterns ({} : LoadedRules) =
      .error (.noMatchingFiles "gone") := by decide +kernel
  have hq : (resolve oversized {} q patterns ({} : LoadedRules)).mapError CheckError.file? =
      .error (some "big") := by decide +kernel
  obtain ⟨before, hfails, before', e, hfails', hprefix⟩ :=
    ((resolve_of_stricter oversized {} patterns {}).1 p q h).2 _ hp
  refine ⟨h, before, before', e, hfails, hfails', hprefix, ?_⟩
  rw [hfails'.result] at hq
  exact Except.error.inj hq

end Resolution

end Rulebook
