import Rulebook.Proofs.BoundedRun
import Rulebook.Proofs.CheckInput
import Rulebook.Proofs.Delivery
import Rulebook.Proofs.Positions
import Rulebook.Proofs.Variables

/-!
# Where findings are reported

The position of a finding is worked out twice: by the rules, for the message, and by the check, for
the report, after the findings have been sorted and turned into diagnostics.

**Theorem (`checkDump_located`).** Both are the position of the node's start in the source of the
unit. If the findings are in the order of positions, their positions never decrease.

Sorting and turning into diagnostics keep the node and the span of a finding (`findings_walk`), and
both positions come from the same index. The order by position compares offsets, not lines and
columns, so that positions never decrease is left to the index (`position_le_position`).
-/

namespace Rulebook

/-! ## Lines and columns in messages -/

section Shown

variable {k : Matcher} {ctx : RunContext} {unit : SourceUnit} {node : Node}
  {captures : SortedMap String String}

/-- A builtin that no group hides stands for its value. -/
theorem shown_of_not_hidden {name t : String} (hmatch : k.captures? node = some captures)
    (hname : name ∉ k.captureNames) (ht : (name, t) ∈ Visit.builtinValues ctx unit node) :
    shown ctx unit node captures name = t := by
  have hfind := Matcher.find?_eq_none_of_not_mem hmatch hname
  rw [shown_eq, (Visit.value?_eq_some_iff_of_find?_eq_none ctx unit node hfind).2 ht,
    Option.getD_some]

/-- A position is what a message tells of a node, as far as no groups hide the variables for it. -/
structure TellsPosition (k : Matcher) (shown : String → String) (p : Position) : Prop where
  line : "line" ∉ k.captureNames → shown "line" = toString p.line
  column : "column" ∉ k.captureNames → shown "column" = toString p.column

theorem tellsPosition_shown (hmatch : k.captures? node = some captures) :
    TellsPosition k (shown ctx unit node captures)
      (ctx.lines.position node.span.start.toNat) where
  line h := shown_of_not_hidden hmatch h (by simp [Visit.builtinValues])
  column h := shown_of_not_hidden hmatch h (by simp [Visit.builtinValues])

end Shown

/-! ## Findings among the diagnostics -/

namespace RuleChecker

/-- The findings of a checker are those of its engine, sorted. -/
theorem findings_walk {c : RuleChecker LoadedRules} {l : LoadedRules} (h : c.engine = some l)
    (ctx : UnitContext) (unit : SourceUnit) :
    (c.walk ctx unit).diagnostics.filter Diagnostic.isFinding =
      (c.order.sort (l.run { ctx with debug := c.debug } unit).findings).map
        (Diagnostic.ofFinding unit) := by
  unfold walk diagnostics
  rw [checkUnit_of_engine_eq_some h, List.filter_append,
    List.filter_eq_nil_iff.2 (by simp [Diagnostic.ofWarning, Diagnostic.isFinding]),
    List.filter_eq_self.2 (by simp [Diagnostic.ofFinding, Diagnostic.isFinding])]
  exact List.nil_append _

/-- Without an engine nothing is found. -/
theorem findings_walk_no_engine {c : RuleChecker LoadedRules} (h : c.engine = none)
    (ctx : UnitContext) (unit : SourceUnit) : (c.walk ctx unit).diagnostics = [] := by
  unfold walk
  rw [checkUnit_of_engine_eq_none h]
  rfl

end RuleChecker

/-! ## Reports -/

/-- A reported finding is that of a node with a rule that matches it. -/
structure Reports (sets : List RuleSet) (ctx : RunContext) (unit : SourceUnit)
    (g : ReportedDiagnostic) (h : Hit) : Prop where
  node : h.node ∈ unit.nodes
  rule : ∃ set ∈ sets, h.rule ∈ set.rules
  matched : h.rule.matcher.evaluate ctx unit h.node = .matched h.captures
  diagnostic : g.diagnostic = ⟨unit.path, .finding, some h.node.id, some h.node.span,
    h.rule.message.render (Visit.value? ctx unit h.node h.captures)⟩
  position : ∃ p, g.position = some p ∧ Located unit.source h.node.span.start.toNat p ∧
    TellsPosition h.rule.matcher (shown ctx unit h.node h.captures) p

namespace Dump

variable {fs : FileSystem} (d : Dump fs)

/-- A finding of the unit with its position. -/
def report (f : Finding) : ReportedDiagnostic :=
  ⟨.ofFinding d.file.unit f, some (d.file.context.lines.position f.span.start.toNat)⟩

/-- The findings of a checker, as they are reported. -/
theorem findings_result {c : RuleChecker LoadedRules} {l : LoadedRules} (h : c.engine = some l) :
    (d.result (d.walk c.toChecker).diagnostics).diagnostics.filter (·.diagnostic.isFinding) =
      (c.order.sort (l.run { d.file.context with debug := c.debug } d.file.unit).findings).map
        d.report := by
  have hwalk := RuleChecker.findings_walk h d.file.context d.file.unit
  unfold result
  rw [List.filter_map]
  change ((c.walk d.file.context d.file.unit).diagnostics.filter Diagnostic.isFinding).map _ = _
  rw [hwalk, List.map_map]
  rfl

theorem reports_report {l : LoadedRules} {debug : Option String} {f : Finding}
    (hf : f ∈ (l.run { d.file.context with debug := debug } d.file.unit).findings) :
    ∃ h, Reports l.sets { d.file.context with debug := debug } d.file.unit (d.report f) h := by
  rw [LoadedRules.run_findings] at hf
  obtain ⟨h, hh, rfl⟩ := List.mem_map.1 hf
  obtain ⟨hnode, hrule, hmatch⟩ := mem_hits_iff.1 (List.mem_of_mem_take hh)
  have hcaptures := Matcher.captures?_of_evaluate_eq_matched hmatch
  exact ⟨h, hnode, hrule, hmatch, rfl, _, rfl, LineIndex.located_position _ _ _,
    tellsPosition_shown hcaptures⟩

/-- Findings in the order of positions have positions in order. -/
theorem pairwise_position_report (fs : List Finding) :
    (((FindingOrder.position.sort fs).map d.report).filterMap
      ReportedDiagnostic.position).Pairwise (· ≤ ·) := by
  rw [List.filterMap_map]
  change ((FindingOrder.position.sort fs).filterMap (some ∘ fun f =>
    d.file.context.lines.position f.span.start.toNat)).Pairwise (· ≤ ·)
  rw [List.filterMap_eq_map]
  have hkeys := List.pairwise_map.1 (FindingOrder.pairwise_map_key_sort .position fs)
  refine List.pairwise_map.2 (hkeys.imp fun {f f'} hle => ?_)
  -- Of the key only the offset counts here.
  have hstart : f.span.start ≤ f'.span.start := by
    rcases hle with hlt | ⟨heq, -⟩
    · exact UInt32.le_of_lt hlt
    · exact UInt32.le_of_eq heq
  exact LineIndex.position_le_position _ _ (UInt32.le_iff_toNat_le.1 hstart)

end Dump

/-- **Positions of findings.** A dump that reads as a unit is checked, with whatever rules. Every
finding that is reported is that of a node of the unit: it has the path of the unit, the number and
the span of the node, and the position of the node's start in the source, which is also what the
variables for it stand for in the message, unless a group hides them. In the order of positions,
the positions that are reported never decrease. -/
theorem checkDump_located {fs : FileSystem} (d : Dump fs) (c : RuleChecker LoadedRules) :
    ∃ u trace, CheckRun.checkDump fs c.toChecker d.path = .ok (u, trace) ∧
      (∀ g ∈ u.diagnostics, g.diagnostic.isFinding = true → ∃ l h, c.engine = some l ∧
        Reports l.sets { d.file.context with debug := c.debug } d.file.unit g h) ∧
      (c.order = .position →
        ((u.diagnostics.filter (·.diagnostic.isFinding)).filterMap
          ReportedDiagnostic.position).Pairwise (· ≤ ·)) := by
  refine ⟨d.result (d.walk c.toChecker).diagnostics, _,
    Dump.checkDump_eq_ok_iff.2 ⟨d, rfl, rfl⟩, ?_⟩
  cases hengine : c.engine with
  | none =>
    have hnone : (d.walk c.toChecker).diagnostics = [] :=
      RuleChecker.findings_walk_no_engine hengine d.file.context d.file.unit
    rw [hnone]
    exact ⟨fun g hg => absurd hg List.not_mem_nil, fun _ => .nil⟩
  | some l =>
    have hfindings := d.findings_result hengine
    refine ⟨fun g hg hfinding => ?_, fun horder => ?_⟩
    · have hmem := hfindings ▸ List.mem_filter.2 ⟨hg, hfinding⟩
      obtain ⟨f, hf, rfl⟩ := List.mem_map.1 hmem
      obtain ⟨h, hh⟩ := d.reports_report ((c.order.sort_perm _).mem_iff.1 hf)
      exact ⟨l, h, rfl, hh⟩
    · rw [hfindings, horder]
      exact d.pairwise_position_report _

end Rulebook
