import Rulebook.Check.Checker
import Rulebook.Proofs.BoundedRun
import Rulebook.Proofs.Resolution

/-!
# Checkers on a fresh engine

A check resolves files with an engine that holds nothing yet. If no file is loaded the engine is
left out, which makes no difference: an engine without rules finds nothing and traces nothing
(`checkUnit_no_rules`). So what a checker tells of a unit is a matter of the rule sets of the files
alone (`checkUnit_fresh_eq`).
-/

namespace Rulebook

/-- A checker whose engine has no rules does what a checker without an engine does. -/
theorem RuleChecker.checkUnit_no_rules (debug : Option String) (order : FindingOrder)
    (uctx : UnitContext) (unit : SourceUnit) :
    (RuleChecker.mk (some ({} : LoadedRules)) debug order).checkUnit uctx unit =
      (RuleChecker.mk (none : Option LoadedRules) debug order).checkUnit uctx unit := by
  have hvisits : ({} : LoadedRules).visits unit = [] :=
    List.flatMap_eq_nil_iff.2 fun _ _ => rfl
  simp only [checkUnit, RuleEngine.run, LoadedRules.run, hvisits, LoadedRules.visitAll,
    FindingOrder.sort, List.reverse_nil, List.mergeSort_nil]

namespace Resolution

variable (fs : FileSystem) (ctx : ParseContext)

/-- The rule sets of the files of a list that have one. -/
def ruleSets (files : List String) : List RuleSet :=
  files.filterMap fun f => (outcome fs ctx f).toOption

/-- The resolution of files by a fresh engine. -/
def fresh (files : List String) : Resolution LoadedRules := settle fs ctx ⟨{}, [], []⟩ files

/-- The files that are loaded come with the rule sets that they have. -/
theorem map_outcome_filter_isOk (files : List String) :
    (files.filter fun f => (outcome fs ctx f).isOk).map (outcome fs ctx) =
      (files.filterMap fun f => (outcome fs ctx f).toOption).map Except.ok := by
  induction files with
  | nil => rfl
  | cons f files ih =>
    rw [List.filter_cons, List.filterMap_cons]
    cases h : outcome fs ctx f with
    | error e => exact ih
    | ok set => simpa [Except.isOk, Except.toBool, Except.toOption, h] using ih

theorem engine_fresh_of_loaded_eq_nil {files : List String}
    (h : (fresh fs ctx files).loaded = []) : (fresh fs ctx files).engine = {} := by
  have hmap := map_outcome_filter_isOk fs ctx files
  change (fresh fs ctx files).loaded.map (outcome fs ctx) = _ at hmap
  rw [h] at hmap
  exact congrArg LoadedRules.mk (List.map_eq_nil_iff.1 hmap.symm)

/-- Without a loaded file a fresh engine has no rules, so that it may as well be left out. -/
theorem checkUnit_fresh (files : List String) (debug : Option String) (order : FindingOrder)
    (uctx : UnitContext) (unit : SourceUnit) :
    (RuleChecker.mk (fresh fs ctx files).engine? debug order).checkUnit uctx unit =
      (RuleChecker.mk (some (fresh fs ctx files).engine) debug order).checkUnit uctx unit := by
  unfold engine?
  split
  · next hempty =>
    rw [engine_fresh_of_loaded_eq_nil fs ctx (List.isEmpty_iff.1 hempty)]
    exact (RuleChecker.checkUnit_no_rules debug order uctx unit).symm
  · rfl

/-- What a checker tells of a unit after a fresh engine has resolved files. -/
theorem checkUnit_fresh_eq (files : List String) (debug : Option String) (order : FindingOrder)
    (uctx : UnitContext) (unit : SourceUnit) :
    let rctx : RunContext := { uctx with debug := debug }
    let all := hits (ruleSets fs ctx files) rctx unit
    let out := (RuleChecker.mk (fresh fs ctx files).engine? debug order).checkUnit uctx unit
    out.findings = order.sort ((all.take maxFindings).map (Hit.finding rctx unit)) ∧
      (out.error = none ↔ all.length ≤ maxFindings) := by
  intro rctx all out
  have hout : out = _ := checkUnit_fresh fs ctx files debug order uctx unit
  rw [hout]
  constructor
  · exact congrArg order.sort (LoadedRules.run_findings rctx unit _)
  · exact LoadedRules.run_error_eq_none_iff rctx unit _

end Resolution

end Rulebook
