import Rulebook.CommandLine
import Rulebook.Proofs.CheckInput
import Rulebook.Proofs.FreshEngine
import Rulebook.Proofs.SortKeys

/-!
# What the exit status says

A check that goes through has status zero exactly if no rule that was loaded matches any node of any
unit (`status_eq_zero_iff`).

The status is a matter of the findings that are told. So the proof first says what is told of one
unit (`told_result`): a finding for each hit, or, where there are more hits than the bound, as many
as the bound and a warning in front of them. The bound is not zero, so a unit with hits has a
finding in either case, and the status cannot hide a run that was cut short.
-/

namespace Rulebook

/-- A rule matches a node. -/
def Rule.Matches (rule : Rule) (ctx : RunContext) (unit : SourceUnit) (node : Node) : Prop :=
  ∃ captures, rule.matcher.evaluate ctx unit node = .matched captures

/-- There are no hits when no rule matches any node. -/
theorem hits_eq_nil_iff {sets : List RuleSet} {ctx : RunContext} {unit : SourceUnit} :
    hits sets ctx unit = [] ↔
      ∀ node ∈ unit.nodes, ∀ set ∈ sets, ∀ rule ∈ set.rules, ¬ rule.Matches ctx unit node := by
  have hhit (node : Node) (rule : Rule) :
      hit? ctx unit node rule = none ↔ ¬ rule.Matches ctx unit node := by
    unfold hit? Rule.Matches
    cases rule.matcher.evaluate ctx unit node <;> simp
  simp only [hits, List.flatMap_eq_nil_iff, List.filterMap_eq_nil_iff, hhit, Array.mem_toList_iff]

/-! ## One unit -/

/-- No diagnostic is both a warning and a finding. -/
theorem Diagnostic.isWarning_of_isFinding {d : Diagnostic} (h : d.isFinding = true) :
    d.isWarning = false := by
  unfold isFinding at h
  simp [isWarning, of_decide_eq_true h]

/-- What is told of a unit for which there should be certain findings: all of them, or, if they are
too many, as many as the bound and a warning in front. -/
structure Told (all : List Diagnostic) (u : UnitResult) (warnings findings : List Diagnostic) :
    Prop where
  split : u.diagnostics.map ReportedDiagnostic.diagnostic = warnings ++ findings
  isWarning : ∀ d ∈ warnings, d.isWarning = true
  isFinding : ∀ d ∈ findings, d.isFinding = true
  length_le_one : warnings.length ≤ 1
  warned_iff : warnings ≠ [] ↔ maxFindings < all.length
  length_of_warned : warnings ≠ [] → findings.length = maxFindings
  perm_of_not_warned : warnings = [] → findings.Perm all

theorem Told.findings_eq_nil_iff {all : List Diagnostic} {u : UnitResult}
    {warnings findings : List Diagnostic} (h : Told all u warnings findings) :
    findings = [] ↔ all = [] := by
  by_cases hw : warnings = []
  · rw [← List.length_eq_zero_iff, (h.perm_of_not_warned hw).length_eq, List.length_eq_zero_iff]
  · have hlt : maxFindings < all.length := h.warned_iff.1 hw
    have hlength : findings.length = maxFindings := h.length_of_warned hw
    have hpos : 0 < maxFindings := by decide
    rw [← List.length_eq_zero_iff, ← List.length_eq_zero_iff]
    omega

/-- A unit has a finding that is told if it has one at all. -/
theorem Told.exists_isFinding_iff {all : List Diagnostic} {u : UnitResult}
    {warnings findings : List Diagnostic} (h : Told all u warnings findings) :
    (∃ g ∈ u.diagnostics, g.diagnostic.isFinding = true) ↔ all ≠ [] := by
  have hsplit : (∃ g ∈ u.diagnostics, g.diagnostic.isFinding = true) ↔
      ∃ d ∈ warnings ++ findings, d.isFinding = true := by
    rw [← h.split]
    simp
  rw [hsplit, ne_eq, ← h.findings_eq_nil_iff]
  constructor
  · rintro ⟨d, hd, hfinding⟩ rfl
    rw [List.append_nil] at hd
    exact absurd (h.isWarning d hd) (by simp [Diagnostic.isWarning_of_isFinding hfinding])
  · intro hne
    obtain ⟨d, hd⟩ := List.exists_mem_of_ne_nil findings hne
    exact ⟨d, List.mem_append_right _ hd, h.isFinding d hd⟩

/-- A warning is told only of a unit with more hits than the bound. -/
theorem Told.ne_nil_of_isWarning {all : List Diagnostic} {u : UnitResult}
    {warnings findings : List Diagnostic} (h : Told all u warnings findings)
    {g : ReportedDiagnostic} (hg : g ∈ u.diagnostics) (hwarning : g.diagnostic.isWarning = true) :
    all ≠ [] := by
  have hmem : g.diagnostic ∈ warnings ++ findings := h.split ▸ List.mem_map_of_mem hg
  rcases List.mem_append.1 hmem with hmem | hmem
  · have hlt : maxFindings < all.length := h.warned_iff.1 (List.ne_nil_of_mem hmem)
    exact List.ne_nil_of_length_pos (Nat.lt_of_le_of_lt (Nat.zero_le _) hlt)
  · exact absurd hwarning (by simp [Diagnostic.isWarning_of_isFinding (h.isFinding _ hmem)])

namespace CheckInput

variable {fs : FileSystem} {env : Option String} {o : CheckOptions}

/-- The rule sets that were loaded, one for each time that a file was. -/
def sets (i : CheckInput fs env o) : List RuleSet := i.resolution.engine.sets

/-- What the rules are given when they run over a dump. -/
def context (i : CheckInput fs env o) (d : Dump fs) : RunContext :=
  { d.file.context with debug := i.settings.debug }

/-- A finding for each pair of a node and a rule that matches it. -/
def allFindings (i : CheckInput fs env o) (d : Dump fs) : List Diagnostic :=
  (hits i.sets (i.context d) d.file.unit).map fun h =>
    Diagnostic.ofFinding d.file.unit (h.finding (i.context d) d.file.unit)

theorem allFindings_eq_nil_iff {i : CheckInput fs env o} {d : Dump fs} :
    i.allFindings d = [] ↔ ∀ node ∈ d.file.unit.nodes, ∀ set ∈ i.sets, ∀ rule ∈ set.rules,
      ¬ rule.Matches (i.context d) d.file.unit node := by
  rw [allFindings, List.map_eq_nil_iff, hits_eq_nil_iff]

/-- What the checker finds in a unit, and when it gives up. -/
theorem checkUnit_checker (i : CheckInput fs env o) (d : Dump fs) :
    let all := hits i.sets (i.context d) d.file.unit
    let out := i.checker.checkUnit d.file.context d.file.unit
    out.findings = i.settings.order.sort
        ((all.take maxFindings).map (Hit.finding (i.context d) d.file.unit)) ∧
      (out.error = none ↔ all.length ≤ maxFindings) := by
  have hr : i.resolution = Resolution.fresh fs i.config.parseContext
      (Resolution.matched fs i.settings.patterns) :=
    ((Resolution.resolve_eq_ok_iff fs _ _).1 i.resolve).2
  have h := Resolution.checkUnit_fresh_eq fs i.config.parseContext
    (Resolution.matched fs i.settings.patterns) i.settings.debug i.settings.order d.file.context
    d.file.unit
  rw [← hr] at h
  have hsets : i.sets = Resolution.ruleSets fs i.config.parseContext
      (Resolution.matched fs i.settings.patterns) := by
    unfold sets
    rw [hr]
    rfl
  rw [hsets]
  exact h

/-- **What is told of a unit.** -/
theorem told_result (i : CheckInput fs env o) (d : Dump fs) :
    ∃ warnings findings, Told (i.allFindings d) (i.result d) warnings findings := by
  obtain ⟨hfindings, herror⟩ := i.checkUnit_checker d
  let out := i.checker.checkUnit d.file.context d.file.unit
  have hperm : (out.findings.map (Diagnostic.ofFinding d.file.unit)).Perm
      ((i.allFindings d).take maxFindings) := by
    rw [hfindings, allFindings, ← List.map_take, ← Function.comp_def, ← List.map_map]
    exact (i.settings.order.sort_perm _).map _
  have hlength : (i.allFindings d).length = (hits i.sets (i.context d) d.file.unit).length :=
    List.length_map _
  let warn (e : String) := Diagnostic.ofWarning d.file.unit ("execution error: " ++ e)
  have hwarned : out.error.toList.map warn = [] ↔ (i.allFindings d).length ≤ maxFindings := by
    rw [hlength, ← herror, List.map_eq_nil_iff, Option.toList_eq_nil_iff]
  refine ⟨out.error.toList.map warn, out.findings.map (Diagnostic.ofFinding d.file.unit), ?_⟩
  constructor
  case split =>
    change List.map _ (List.map _ _) = _
    rw [List.map_map]
    exact List.map_id _
  case isWarning =>
    intro g hg
    obtain ⟨e, -, rfl⟩ := List.mem_map.1 hg
    rfl
  case isFinding =>
    intro g hg
    obtain ⟨f, -, rfl⟩ := List.mem_map.1 hg
    rfl
  case length_le_one =>
    cases out.error <;> simp
  case warned_iff =>
    rw [ne_eq, hwarned, Nat.not_le]
  case length_of_warned =>
    intro hne
    rw [ne_eq, hwarned, Nat.not_le] at hne
    rw [hperm.length_eq, List.length_take, Nat.min_eq_left (Nat.le_of_lt hne)]
  case perm_of_not_warned =>
    intro hnil
    rwa [List.take_of_length_le (hwarned.1 hnil)] at hperm

end CheckInput

/-! ## All units -/

theorem CheckOutcome.hasFindings_iff {outcome : CheckOutcome} :
    outcome.hasFindings = true ↔
      ∃ u ∈ outcome.units, ∃ g ∈ u.diagnostics, g.diagnostic.isFinding = true := by
  unfold hasFindings findingCount
  rw [decide_eq_true_eq, List.countP_pos_iff]
  simp only [diagnostics, List.mem_flatMap]
  constructor
  · rintro ⟨g, ⟨u, hu, hg⟩, hfinding⟩
    exact ⟨u, hu, g, hg, hfinding⟩
  · rintro ⟨u, hu, g, hg, hfinding⟩
    exact ⟨g, ⟨u, hu, hg⟩, hfinding⟩

namespace CheckInput

variable {fs : FileSystem} {env : Option String} {o : CheckOptions}

/-- A check has findings when some rule matches some node of some unit. -/
theorem hasFindings_iff (i : CheckInput fs env o) :
    CheckOutcome.hasFindings ⟨i.dumps.map i.result⟩ = true ↔
      ∃ d ∈ i.dumps, i.allFindings d ≠ [] := by
  rw [CheckOutcome.hasFindings_iff]
  constructor
  · rintro ⟨u, hu, hfinding⟩
    obtain ⟨d, hd, rfl⟩ := List.mem_map.1 hu
    obtain ⟨warnings, findings, htold⟩ := i.told_result d
    exact ⟨d, hd, htold.exists_isFinding_iff.1 hfinding⟩
  · rintro ⟨d, hd, hne⟩
    obtain ⟨warnings, findings, htold⟩ := i.told_result d
    exact ⟨i.result d, List.mem_map_of_mem hd, htold.exists_isFinding_iff.2 hne⟩

/-- The status tells whether some rule matches some node of some unit. -/
theorem status_runCheck (i : CheckInput fs env o) (format : OutputFormat) :
    ((CommandLine.runCheck fs env o format).status = 0 ∧ ∀ d ∈ i.dumps, i.allFindings d = []) ∨
      ((CommandLine.runCheck fs env o format).status = 1 ∧
        ∃ d ∈ i.dumps, i.allFindings d ≠ []) := by
  have hresult : (CheckRun.run fs env o).result = .ok ⟨i.dumps.map i.result⟩ :=
    result_eq_ok_iff.2 ⟨i, rfl⟩
  have hstatus : (CommandLine.runCheck fs env o format).status =
      if CheckOutcome.hasFindings ⟨i.dumps.map i.result⟩ then 1 else 0 := by
    unfold CommandLine.runCheck
    simp only [hresult]
  by_cases hfindings : CheckOutcome.hasFindings ⟨i.dumps.map i.result⟩ = true
  · rw [if_pos hfindings] at hstatus
    exact .inr ⟨hstatus, i.hasFindings_iff.1 hfindings⟩
  · rw [if_neg hfindings] at hstatus
    rw [i.hasFindings_iff] at hfindings
    push Not at hfindings
    exact .inl ⟨hstatus, hfindings⟩

end CheckInput

/-- **The exit status.** A check that goes through ends with status zero if no rule that was loaded
matches any node of any unit, and otherwise with status one. Each unit is told with at most one
warning, in front of its findings. Without it there is a finding for each pair of a node and a rule
that matches it; with it there are more pairs than the bound, and as many findings as the bound. So
where a run was cut short the status is one. -/
theorem status_eq_zero_iff (fs : FileSystem) (env : Option String) (o : CheckOptions)
    (format : OutputFormat) {outcome : CheckOutcome}
    (h : (CheckRun.run fs env o).result = .ok outcome) :
    ∃ i : CheckInput fs env o, outcome.units = i.dumps.map i.result ∧
      (∀ d ∈ i.dumps, ∃ warnings findings,
        Told (i.allFindings d) (i.result d) warnings findings) ∧
      let run := CommandLine.runCommand fs env (.check o format)
      (∀ args, CommandLine.parse args = some (.check o format) →
        CommandLine.run fs env args = run) ∧
      (run.status = 0 ↔ ∀ d ∈ i.dumps, ∀ node ∈ d.file.unit.nodes, ∀ set ∈ i.sets,
        ∀ rule ∈ set.rules, ¬ rule.Matches (i.context d) d.file.unit node) ∧
      (run.status ≠ 0 → run.status = 1) ∧
      ((∃ g ∈ outcome.diagnostics, g.diagnostic.isWarning = true) → run.status = 1) := by
  obtain ⟨i, rfl⟩ := CheckInput.result_eq_ok_iff.1 h
  refine ⟨i, rfl, fun d _ => i.told_result d, ?_⟩
  intro run
  refine ⟨fun args hargs => ?_, ?_⟩
  · unfold CommandLine.run
    rw [hargs]
  rcases i.status_runCheck format with ⟨hstatus, hnil⟩ | ⟨hstatus, d, hd, hne⟩
  · refine ⟨iff_of_true hstatus fun d hd => CheckInput.allFindings_eq_nil_iff.1 (hnil d hd),
      fun hne => absurd hstatus hne, ?_⟩
    rintro ⟨g, hg, hwarning⟩
    obtain ⟨u, hu, hg⟩ := List.mem_flatMap.1 hg
    obtain ⟨d, hd, rfl⟩ := List.mem_map.1 hu
    obtain ⟨warnings, findings, htold⟩ := i.told_result d
    exact absurd (hnil d hd) (htold.ne_nil_of_isWarning hg hwarning)
  · refine ⟨iff_of_false (fun hzero => ?_) fun hall => ?_, fun _ => hstatus, fun _ => hstatus⟩
    · exact absurd (hzero.symm.trans hstatus) (by decide)
    · exact hne (CheckInput.allFindings_eq_nil_iff.2 (hall d hd))

/-- A file `r` with one rule, and under all other names a dump of a unit with one node. -/
def oneCall : FileSystem where
  root := "/"
  isThere path := .ok (path ≠ Config.fileName)
  read path := .ok (if path = "r" then "[[rules]]\nname='r'\nmatch.kind='k'\nreport.message='m'"
    else "\x7b\"unit\":\x7b\"path\":\"p\",\"nodes\":[\x7b\"id\":0,\"kind\":\"k\"\x7d]\x7d\x7d")
  metadata _ := .ok (.file 0)
  glob pattern := .ok [pattern]

/-- The rule of `oneCall`. -/
def callRule : Rule :=
  ⟨"r", "r", none, ⟨some ["k"], none, none, none, none, none⟩, ⟨[.literal "m"]⟩⟩

theorem resolve_oneCall :
    Resolution.resolve oneCall {} .lenient [⟨"r"⟩] ({} : LoadedRules) =
      .ok ⟨⟨[⟨"r", none, [callRule]⟩]⟩, ["r"], []⟩ := by decide +kernel

/-- A rule that matches the only node makes the status one. -/
theorem status_eq_zero_iff_oneCall :
    let args := ["check", "--rules", "r", "u"]
    let o : CheckOptions := { units := ["u"], overrides := { rules := some "r" } }
    CommandLine.parse args = some (.check o .human) ∧
    ∃ outcome, (CheckRun.run oneCall none o).result = .ok outcome ∧
      outcome.units.length = 1 ∧ (CommandLine.run oneCall none args).status = 1 := by
  intro args o
  have hargs : CommandLine.parse args = some (.check o .human) := by decide +kernel
  let d : Dump oneCall :=
    ⟨"u", _, { unit := { path := "p", nodes := #[⟨0, "k", {}, ""⟩] } }, rfl, by decide +kernel⟩
  let i : CheckInput oneCall none o :=
    { config := { checker := { rules := "r" } }
      settings := { patterns := [⟨"r"⟩] }
      resolution := ⟨⟨[⟨"r", none, [callRule]⟩]⟩, ["r"], []⟩
      configOf := by decide +kernel
      ofParams := by decide +kernel
      resolve := resolve_oneCall
      dumps := [d]
      paths := rfl }
  have hresult := CheckInput.result_eq_ok_iff.2 ⟨i, rfl⟩
  have hmatch : callRule.Matches (i.context d) d.file.unit ⟨0, "k", {}, ""⟩ := ⟨∅, rfl⟩
  obtain ⟨j, -, -, hrun, hzero, hone, -⟩ := status_eq_zero_iff oneCall none o .human hresult
  obtain rfl : j = i := Subsingleton.elim j i
  refine ⟨hargs, _, hresult, rfl, ?_⟩
  rw [hrun args hargs]
  refine hone fun hstatus => hzero.1 hstatus d (List.mem_singleton_self d) _ ?_ _
    (List.mem_singleton_self _) callRule (List.mem_singleton_self _) hmatch
  exact List.mem_toArray.2 (List.mem_singleton_self _)

end Rulebook
