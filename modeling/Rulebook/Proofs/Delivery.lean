import Rulebook.Check.Sink
import Rulebook.Proofs.SortKeys

/-!
# What arrives at a sink

A checker hands on what its engine says of a unit, whatever engine that is.

**Theorem (`walkInto_collector`).** Without an engine nothing is sent. With one, a collector gets a
warning if the run was cut short and none otherwise, and then a finding for each finding of the run,
in order, with its node, its span and its message as they were.

Reports are sent one by one, so what a collector holds after them is proved by induction on the
findings (`foldl_report`).
-/

namespace Rulebook

/-- Findings that are reported one after the other are kept in that order. -/
theorem Collector.foldl_report (unit : SourceUnit) (fs : List Finding) (c : Collector) :
    (fs.foldl (fun c f => Sink.report c unit f) c).diagnostics.toList =
      c.diagnostics.toList ++ fs.map (Diagnostic.ofFinding unit) := by
  induction fs generalizing c with
  | nil => exact (List.append_nil _).symm
  | cons f fs ih =>
    rw [List.foldl_cons, ih, List.map_cons, ← List.singleton_append, ← List.append_assoc]
    exact congrArg (· ++ _) Array.toList_push

namespace RuleChecker

variable {σ : Type} [RuleEngine σ]

/-- A collector gets the diagnostics that the run amounts to. -/
theorem diagnostics_walkInto (c : RuleChecker σ) (ctx : UnitContext) (unit : SourceUnit)
    (collector : Collector) :
    (c.walkInto ctx unit collector).diagnostics.toList =
      collector.diagnostics.toList ++ (c.walk ctx unit).diagnostics := by
  unfold walkInto walk diagnostics
  simp only [Collector.foldl_report]
  cases (c.checkUnit ctx unit).error with
  | none => rfl
  | some e =>
    rw [Option.toList_some, List.map_singleton, ← List.append_assoc]
    exact congrArg (· ++ _) Array.toList_push

theorem checkUnit_of_engine_eq_none {c : RuleChecker σ} (h : c.engine = none) (ctx : UnitContext)
    (unit : SourceUnit) : c.checkUnit ctx unit = {} := by
  unfold checkUnit
  rw [h]

theorem checkUnit_of_engine_eq_some {c : RuleChecker σ} {engine : σ} (h : c.engine = some engine)
    (ctx : UnitContext) (unit : SourceUnit) :
    let out := RuleEngine.run engine { ctx with debug := c.debug } unit
    c.checkUnit ctx unit = { out with findings := c.order.sort out.findings } := by
  unfold checkUnit
  rw [h]

/-- **What arrives.** Without an engine a sink stays as it was. With one, a collector gets after all
that it held before: a warning about the unit with the text of the error that cut the run short, or
none if the run was not cut short; and then, in order, each finding of the run as it was, once for
each time that it was found. -/
theorem walkInto_collector (c : RuleChecker σ) (ctx : UnitContext) (unit : SourceUnit) :
    match c.engine with
    | none => ∀ (τ : Type) (_ : Sink τ) (sink : τ), c.walkInto ctx unit sink = sink
    | some engine =>
      let out := RuleEngine.run engine { ctx with debug := c.debug } unit
      ∃ ordered, c.order.Arranged out.findings ordered ∧ ∀ collector : Collector,
        (c.walkInto ctx unit collector).diagnostics.toList = collector.diagnostics.toList ++
          (match out.error with
            | none => []
            | some text => [⟨unit.path, .warning, none, none, "execution error: " ++ text⟩]) ++
          ordered.map fun f => ⟨unit.path, .finding, some f.node, some f.span, f.message⟩ := by
  split
  · next h =>
    intro τ _ sink
    unfold walkInto
    rw [checkUnit_of_engine_eq_none h]
    rfl
  · next engine h =>
    intro out
    refine ⟨c.order.sort out.findings, c.order.arranged_sort out.findings, fun collector => ?_⟩
    rw [diagnostics_walkInto, List.append_assoc]
    unfold walk diagnostics
    rw [checkUnit_of_engine_eq_some h]
    cases herror : out.error <;> rfl

end RuleChecker

end Rulebook
