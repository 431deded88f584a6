import Rulebook.Proofs.FreshEngine
import Rulebook.Proofs.SortKeys
import Mathlib.Data.List.Perm.Basic

/-!
# The order of patterns

Patterns in another order load the same files in another order. Nothing that a user sees of a check
depends on it, except which of several findings with one key comes first, and what stops a check
that several things stop (`resolve_of_perm`).

Every step is judged by itself, so whether one stops the resolution does not depend on the order.
What is loaded is a permutation, so the hits of a unit are one too, and there are as many of them:
a run is cut short in both orders or in neither. If it is not, sorting hides the permutation.
-/

namespace Rulebook

theorem hits_perm {sets sets' : List RuleSet} (h : sets.Perm sets') (ctx : RunContext)
    (unit : SourceUnit) : (hits sets ctx unit).Perm (hits sets' ctx unit) :=
  List.Perm.flatMap_left unit.nodes.toList fun _ _ => h.flatMap_right _

namespace Resolution

variable (fs : FileSystem) (ctx : ParseContext)

theorem steps_perm {patterns patterns' : List RulePattern} (h : patterns.Perm patterns') :
    (steps fs patterns).Perm (steps fs patterns') := h.flatMap_right _

theorem matched_perm {patterns patterns' : List RulePattern} (h : patterns.Perm patterns') :
    (matched fs patterns).Perm (matched fs patterns') := h.flatMap_right _

/-- Permuted files give the same output, up to findings with one key, unless a run is cut short. -/
theorem checkUnit_fresh_of_perm {files files' : List String} (h : files.Perm files')
    (debug : Option String) (order : FindingOrder) (uctx : UnitContext) (unit : SourceUnit) :
    let out := (RuleChecker.mk (fresh fs ctx files).engine? debug order).checkUnit uctx unit
    let out' := (RuleChecker.mk (fresh fs ctx files').engine? debug order).checkUnit uctx unit
    (out.error = none ↔ out'.error = none) ∧
      (out.error = none → out.findings.Perm out'.findings ∧
        out.findings.map order.key = out'.findings.map order.key) := by
  intro out out'
  obtain ⟨hfindings, herror⟩ := checkUnit_fresh_eq fs ctx files debug order uctx unit
  obtain ⟨hfindings', herror'⟩ := checkUnit_fresh_eq fs ctx files' debug order uctx unit
  have hhits : (hits (ruleSets fs ctx files) { uctx with debug := debug } unit).Perm
      (hits (ruleSets fs ctx files') { uctx with debug := debug } unit) :=
    hits_perm (h.filterMap _) _ unit
  have hlength := hhits.length_eq
  refine ⟨by rw [herror, herror', hlength], fun hnone => ?_⟩
  have hle := herror.1 hnone
  rw [List.take_of_length_le hle] at hfindings
  rw [List.take_of_length_le (hlength ▸ hle)] at hfindings'
  have hperm := hhits.map (Hit.finding { uctx with debug := debug } unit)
  rw [hfindings, hfindings']
  refine ⟨?_, order.map_key_sort_of_perm hperm⟩
  exact (order.sort_perm _).trans (hperm.trans (order.sort_perm _).symm)

/-- **Patterns in any order.** Permuted patterns resolve or fail alike. If they resolve, the same
files are loaded and the same files are left out. If moreover the run over a unit is not cut short,
it gives the same findings, and their keys come in the same sequence. -/
theorem resolve_of_perm (policy : FailurePolicy) {patterns patterns' : List RulePattern}
    (h : patterns.Perm patterns') :
    ((∃ r, resolve fs ctx policy patterns ({} : LoadedRules) = .ok r) ↔
      ∃ r, resolve fs ctx policy patterns' ({} : LoadedRules) = .ok r) ∧
    ∀ r r', resolve fs ctx policy patterns ({} : LoadedRules) = .ok r →
      resolve fs ctx policy patterns' ({} : LoadedRules) = .ok r' →
      r.loaded.Perm r'.loaded ∧ r.skipped.Perm r'.skipped ∧
      ∀ debug order uctx unit,
        let out := (RuleChecker.mk r.engine? debug order).checkUnit uctx unit
        let out' := (RuleChecker.mk r'.engine? debug order).checkUnit uctx unit
        (out.error = none ↔ out'.error = none) ∧
        (out.error = none → out.findings.Perm out'.findings ∧
          match order with
          | .message => out.findings.map Finding.message = out'.findings.map Finding.message
          | .position =>
            out.findings.map (fun f => (f.span.start, f.message)) =
              out'.findings.map fun f => (f.span.start, f.message)) := by
  have hmatched := matched_perm fs h
  constructor
  · simp only [resolve_eq_ok_iff, exists_and_left, exists_eq, and_true]
    exact ⟨fun hs s hmem => hs s ((steps_perm fs h).mem_iff.2 hmem),
      fun hs s hmem => hs s ((steps_perm fs h).mem_iff.1 hmem)⟩
  · intro r r' hr hr'
    obtain rfl := ((resolve_eq_ok_iff fs ctx policy).1 hr).2
    obtain rfl := ((resolve_eq_ok_iff fs ctx policy).1 hr').2
    refine ⟨hmatched.filter _, hmatched.filterMap _, fun debug order uctx unit => ?_⟩
    obtain ⟨herror, hout⟩ := checkUnit_fresh_of_perm fs ctx hmatched debug order uctx unit
    refine ⟨herror, fun hnone => ⟨(hout hnone).1, ?_⟩⟩
    have hkeys := (hout hnone).2
    cases order with
    | message =>
      have hmessages := congrArg (List.map Prod.snd) hkeys
      rw [List.map_map, List.map_map] at hmessages
      exact hmessages
    | position => exact hkeys

/-- In memory: two files with one rule each about nodes of one kind, and one that is not well
formed. -/
def ruledFiles : MemoryFiles :=
  (((MemoryFiles.empty "/").add "a"
    "[[rules]]\nname='r'\nmatch.kind='k'\nreport.message='m'".toUTF8).add "b"
    "[[rules]]\nname='r'\nmatch.kind='k'\nreport.message='n'".toUTF8).add "c" "[".toUTF8

/-- A unit with two nodes that the rules of `ruledFiles` are about. -/
def ruledUnit : SourceUnit where
  path := "u"
  nodes := #[⟨1, "k", ⟨3, 4⟩, ""⟩, ⟨2, "k", ⟨7, 8⟩, ""⟩]

/-- Three patterns in two orders: the rules are loaded in two orders, `c` is left out in both, and
the findings about two nodes are the same, in an order that their keys determine. -/
theorem resolve_of_perm_reverse :
    let fs := ruledFiles.toFileSystem
    let patterns := [RulePattern.mk "c", ⟨"b"⟩, ⟨"a"⟩]
    patterns.Perm patterns.reverse ∧
    ∃ r r', resolve fs {} .lenient patterns ({} : LoadedRules) = .ok r ∧
      resolve fs {} .lenient patterns.reverse ({} : LoadedRules) = .ok r' ∧
      r.loaded = ["b", "a"] ∧ r'.loaded = ["a", "b"] ∧
      r.skipped.map SkippedFile.file = ["c"] ∧ r.skipped.Perm r'.skipped ∧
      let ctx : UnitContext := ⟨{}, ∅, {}, .ofSource "u" ""⟩
      let out := (RuleChecker.mk r.engine? none .position).checkUnit ctx ruledUnit
      let out' := (RuleChecker.mk r'.engine? none .position).checkUnit ctx ruledUnit
      out'.findings =
        [⟨1, ⟨3, 4⟩, "m"⟩, ⟨1, ⟨3, 4⟩, "n"⟩, ⟨2, ⟨7, 8⟩, "m"⟩, ⟨2, ⟨7, 8⟩, "n"⟩] ∧
      out.error = none ∧ out.findings.Perm out'.findings ∧
      out.findings.map (fun f => (f.span.start, f.message)) =
        [(3, "m"), (3, "n"), (7, "m"), (7, "n")] := by
  intro fs patterns
  have h : patterns.Perm patterns.reverse := (List.reverse_perm patterns).symm
  obtain ⟨hiff, hboth⟩ := resolve_of_perm fs {} .lenient h
  have hgoesOn : ∀ s ∈ steps fs patterns.reverse, stop? fs {} .lenient s = none := by
    decide +kernel
  have hok' : resolve fs {} .lenient patterns.reverse ({} : LoadedRules) =
      .ok (fresh fs {} (matched fs patterns.reverse)) :=
    (resolve_eq_ok_iff fs {} .lenient).2 ⟨hgoesOn, rfl⟩
  obtain ⟨r, hok⟩ := hiff.2 ⟨_, hok'⟩
  obtain ⟨-, hskipped, hrun⟩ := hboth r _ hok hok'
  have hloaded : r.loaded = ["b", "a"] ∧ r.skipped.map SkippedFile.file = ["c"] := by
    obtain rfl := ((resolve_eq_ok_iff fs {} .lenient).1 hok).2
    decide +kernel
  refine ⟨h, r, _, hok, hok', hloaded.1, by decide +kernel, hloaded.2, hskipped, ?_⟩
  intro ctx out out'
  obtain ⟨herror, hsame⟩ := hrun none .position ctx ruledUnit
  obtain ⟨hfindings', hnone'⟩ :=
    checkUnit_fresh_eq fs {} (matched fs patterns.reverse) none .position ctx ruledUnit
  let rctx : RunContext := { ctx with }
  let all := hits (ruleSets fs {} (matched fs patterns.reverse)) rctx ruledUnit
  have hhits : all.map (Hit.finding rctx ruledUnit) =
      [⟨1, ⟨3, 4⟩, "m"⟩, ⟨1, ⟨3, 4⟩, "n"⟩, ⟨2, ⟨7, 8⟩, "m"⟩, ⟨2, ⟨7, 8⟩, "n"⟩] := by
    decide +kernel
  have hlength : all.length ≤ maxFindings := by decide +kernel
  -- The rules of `a` come first, so that the hits are in order already.
  have hout' : out'.findings =
      [⟨1, ⟨3, 4⟩, "m"⟩, ⟨1, ⟨3, 4⟩, "n"⟩, ⟨2, ⟨7, 8⟩, "m"⟩, ⟨2, ⟨7, 8⟩, "n"⟩] := by
    refine hfindings'.trans ?_
    rw [List.take_of_length_le hlength, hhits]
    exact List.mergeSort_of_pairwise (by decide)
  have hnone : out.error = none := herror.2 (hnone'.2 hlength)
  obtain ⟨hperm, hkeys⟩ := hsame hnone
  exact ⟨hout', hnone, hperm, hkeys.trans (congrArg _ hout')⟩

end Resolution

end Rulebook
