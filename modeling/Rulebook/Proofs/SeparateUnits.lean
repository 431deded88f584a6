import Rulebook.Proofs.CheckInput
import Rulebook.Proofs.FreshEngine
import Rulebook.Proofs.Tracing
import Mathlib.Data.List.Forall2

/-!
# Units are checked apart

A check of several dumps is nothing but the checks of each of them, one after the other.

**Theorem (`runAt_append`).** A check of some dumps and then of others goes through when both parts
do, and then it tells what the first part tells and after that what the second tells. What is told
of a dump is a function of its text, of the rules and of the order of findings
(`UnitResult.ofText`).

Configuration and checker are settled without a look at the dumps (`runAt_eq_ok_iff`). What is left
is that of everything a checker is set up with, only rules and order have a say in the diagnostics:
the group to trace has none, and neither has an engine that has taken in nothing
(`diagnostics_checker`).
-/

namespace Rulebook

/-! ## One dump -/

/-- What is told of a dump for its text, when rules run over the unit in it and the findings are put
in order. -/
def UnitResult.ofText (sets : List RuleSet) (order : FindingOrder) (path text : String) :
    Except Fault UnitResult := do
  let file ← UnitFile.parse text
  let checker : RuleChecker LoadedRules := ⟨some ⟨sets⟩, none, order⟩
  let report (d : Diagnostic) : ReportedDiagnostic :=
    ⟨d, d.span.map fun s => file.context.lines.position s.start.toNat⟩
  return ⟨path.toUTF8, (checker.walk file.context file.unit).diagnostics.map report⟩

/-- What is told of the dump at a path. -/
def Tells (fs : FileSystem) (sets : List RuleSet) (order : FindingOrder) (path : String)
    (u : UnitResult) : Prop :=
  ∃ text, fs.read path = .ok text ∧ UnitResult.ofText sets order path text = .ok u

/-- A result is of the dump that was asked for. -/
theorem Tells.dump_eq {fs : FileSystem} {sets : List RuleSet} {order : FindingOrder} {path : String}
    {u : UnitResult} (h : Tells fs sets order path u) : u.dump = path.toUTF8 := by
  obtain ⟨text, -, htext⟩ := h
  obtain ⟨file, -, hfile⟩ := bind_eq_ok_iff.1 htext
  cases hfile
  rfl

/-- What is told of a dump has been read. -/
theorem Tells.exists_dump {fs : FileSystem} {sets : List RuleSet} {order : FindingOrder}
    {path : String} {u : UnitResult} (h : Tells fs sets order path u) :
    ∃ d : Dump fs, d.path = path ∧ UnitResult.ofText sets order d.path d.text = .ok u := by
  obtain ⟨text, hread, htext⟩ := h
  obtain ⟨file, hparse, -⟩ := bind_eq_ok_iff.1 htext
  exact ⟨⟨path, text, file, hread, hparse⟩, rfl, htext⟩

/-- Where something is told of each of some dumps, each of them has been read. -/
theorem exists_dump_of_mem {fs : FileSystem} {sets : List RuleSet} {order : FindingOrder}
    {paths : List String} {results : List UnitResult}
    (h : List.Forall₂ (Tells fs sets order) paths results) {path : String} (hpath : path ∈ paths) :
    ∃ d : Dump fs, d.path = path := by
  induction h with
  | nil => exact absurd hpath List.not_mem_nil
  | cons hu _ ih =>
    rcases List.mem_cons.1 hpath with rfl | hpath
    · obtain ⟨d, hd, -⟩ := hu.exists_dump
      exact ⟨d, hd⟩
    · exact ih hpath

/-- The results are of the dumps that were asked for, in the same order. -/
theorem map_dump_eq {fs : FileSystem} {sets : List RuleSet} {order : FindingOrder}
    {paths : List String} {results : List UnitResult}
    (h : List.Forall₂ (Tells fs sets order) paths results) :
    results.map UnitResult.dump = paths.map String.toUTF8 := by
  induction h with
  | nil => rfl
  | cons hu _ ih => rw [List.map_cons, List.map_cons, hu.dump_eq, ih]

/-! ## What has a say in the diagnostics -/

/-- The group to trace has no say in what is found. -/
theorem RuleChecker.diagnostics_walk_debug (l : LoadedRules) (debug : Option String)
    (order : FindingOrder) (ctx : UnitContext) (unit : SourceUnit) :
    ((RuleChecker.mk (some l) debug order).walk ctx unit).diagnostics =
      ((RuleChecker.mk (some l) none order).walk ctx unit).diagnostics := by
  obtain ⟨hfindings, herror⟩ := LoadedRules.run_debug { ctx with debug := none } unit l debug
  have hfindings' : (l.run { ctx with debug := debug } unit).findings =
      (l.run { ctx with debug := none } unit).findings := hfindings
  have herror' : (l.run { ctx with debug := debug } unit).error =
      (l.run { ctx with debug := none } unit).error := herror
  simp only [walk, checkUnit, RuleEngine.run, diagnostics, hfindings', herror']

namespace CheckSetup

variable {fs : FileSystem} {env : Option String} {o : CheckOptions}

/-- What the checker of a check says is a matter of the rules and of the order. -/
theorem diagnostics_checker (s : CheckSetup fs env o) (ctx : UnitContext) (unit : SourceUnit) :
    (s.checker.walk ctx unit).diagnostics =
      ((RuleChecker.mk (some s.resolution.engine) none s.settings.order).walk ctx
        unit).diagnostics := by
  have hr : s.resolution = Resolution.fresh fs s.config.parseContext
      (Resolution.matched fs s.settings.patterns) :=
    ((Resolution.resolve_eq_ok_iff fs _ _).1 s.resolve).2
  have hunit := Resolution.checkUnit_fresh fs s.config.parseContext
    (Resolution.matched fs s.settings.patterns) s.settings.debug s.settings.order ctx unit
  rw [← hr] at hunit
  have hwalk : (s.checker.walk ctx unit).diagnostics =
      ((RuleChecker.mk (some s.resolution.engine) s.settings.debug s.settings.order).walk ctx
        unit).diagnostics := by
    show RuleChecker.diagnostics unit (s.checker.checkUnit ctx unit) = _
    exact congrArg (RuleChecker.diagnostics unit) hunit
  rw [hwalk, RuleChecker.diagnostics_walk_debug]

/-- The checker of a check tells of a dump what its text comes to. -/
theorem ofText_eq_ok (s : CheckSetup fs env o) (d : Dump fs) :
    UnitResult.ofText s.resolution.engine.sets s.settings.order d.path d.text =
      .ok (d.result (d.walk s.checker.toChecker).diagnostics) := by
  have hwalk : (d.walk s.checker.toChecker).diagnostics = _ :=
    s.diagnostics_checker d.file.context d.file.unit
  unfold UnitResult.ofText
  rw [d.parse, hwalk]
  rfl

/-! ## All dumps -/

/-- The checker goes over dumps one by one. -/
theorem ofUnits_eq_ok_iff (s : CheckSetup fs env o) {units : List String} {outcome : CheckOutcome} :
    (CheckRun.ofUnits fs s.checker.toChecker units).result = .ok outcome ↔
      List.Forall₂ (Tells fs s.resolution.engine.sets s.settings.order) units outcome.units := by
  rw [Dump.ofUnits_eq_ok_iff]
  constructor
  · intro h
    obtain ⟨dumps, rfl, rfl⟩ := h
    rw [List.forall₂_map_left_iff, List.forall₂_map_right_iff, List.forall₂_same]
    intro d _
    exact ⟨d.text, d.read, s.ofText_eq_ok d⟩
  · intro h
    obtain ⟨results⟩ := outcome
    replace h : List.Forall₂ _ units results := h
    induction h with
    | nil => exact ⟨[], rfl, rfl⟩
    | cons htells _ ih =>
      obtain ⟨dumps, rfl, hdumps⟩ := ih
      cases hdumps
      obtain ⟨d, rfl, hd⟩ := htells.exists_dump
      cases (s.ofText_eq_ok d).symm.trans hd
      exact ⟨d :: dumps, rfl, rfl⟩

end CheckSetup

namespace CheckRun

/-- One list of dumps after another. -/
theorem ofUnits_append_eq_ok_iff {fs : FileSystem} {checker : Checker} {us vs : List String}
    {outcome : CheckOutcome} :
    (ofUnits fs checker (us ++ vs)).result = .ok outcome ↔
      ∃ a b, (ofUnits fs checker us).result = .ok a ∧ (ofUnits fs checker vs).result = .ok b ∧
        outcome.units = a.units ++ b.units := by
  simp only [Dump.ofUnits_eq_ok_iff]
  constructor
  · intro h
    obtain ⟨dumps, hpaths, rfl⟩ := h
    obtain ⟨ds, es, rfl, hds, hes⟩ := List.map_eq_append_iff.1 hpaths
    exact ⟨_, _, ⟨ds, hds, rfl⟩, ⟨es, hes, rfl⟩, List.map_append⟩
  · intro h
    obtain ⟨_, _, ⟨ds, hds, rfl⟩, ⟨es, hes, rfl⟩, hunits⟩ := h
    refine ⟨ds ++ es, ?_, ?_⟩
    · rw [List.map_append, hds, hes]
    · rw [List.map_append, ← hunits]

/-- A check goes through when the root of the project opens, the checker can be set up, and the
checker goes over the dumps. Only the last has to do with which dumps these are. -/
theorem runAt_eq_ok_iff {root : String} {opened : Except IoError FileSystem} {env : Option String}
    {o : CheckOptions} {units : List String} {outcome : CheckOutcome} :
    (runAt root opened env { o with units := units }).result = .ok outcome ↔
      ∃ fs, opened = .ok fs ∧ ∃ s : CheckSetup fs env o,
        (ofUnits fs s.checker.toChecker units).result = .ok outcome := by
  cases opened with
  | error e => simp [runAt]
  | ok fs =>
    have hsame : checkerOf fs env { o with units := units } = checkerOf fs env o := rfl
    have hrun : (runAt root (.ok fs) env { o with units := units }).result = .ok outcome ↔
        ∃ checker, checkerOf fs env o = .ok checker ∧
          (ofUnits fs checker units).result = .ok outcome := by
      simp only [runAt, run, hsame]
      cases checkerOf fs env o <;> simp
    rw [hrun]
    simp only [CheckSetup.checkerOf_eq_ok_iff, Except.ok.injEq, exists_eq_left']
    constructor
    · intro h
      obtain ⟨checker, ⟨s, rfl⟩, hresult⟩ := h
      exact ⟨s, hresult⟩
    · intro h
      obtain ⟨s, hresult⟩ := h
      exact ⟨_, ⟨s, rfl⟩, hresult⟩

/-- **Units are checked apart.** In any project and with any options, a check of some dumps and then
of others goes through exactly when both parts do, and then tells what they tell, one after the
other. A check that goes through tells of each dump that was asked for, in order and as often as it
was asked for, what the rules that were loaded say of its text, in the order of findings that is
set, whatever else is checked. If a dump cannot be read or holds no unit, nothing is told of any. -/
theorem runAt_append (root : String) (opened : Except IoError FileSystem) (env : Option String)
    (o : CheckOptions) :
    let check (units : List String) := (runAt root opened env { o with units := units }).result
    (∀ us vs outcome, check (us ++ vs) = .ok outcome ↔
      ∃ a b, check us = .ok a ∧ check vs = .ok b ∧ outcome.units = a.units ++ b.units) ∧
    (∀ units outcome, check units = .ok outcome ↔
      ∃ fs, opened = .ok fs ∧ ∃ s : CheckSetup fs env o,
        List.Forall₂ (Tells fs s.resolution.engine.sets s.settings.order) units outcome.units) ∧
    (∀ units outcome, check units = .ok outcome →
      outcome.units.map UnitResult.dump = units.map String.toUTF8) ∧
    ∀ units, ∀ path ∈ units, (∀ fs, opened = .ok fs → ¬ ∃ d : Dump fs, d.path = path) →
      ∃ e, check units = .error e := by
  intro check
  have htold : ∀ units outcome, check units = .ok outcome ↔
      ∃ fs, opened = .ok fs ∧ ∃ s : CheckSetup fs env o,
        List.Forall₂ (Tells fs s.resolution.engine.sets s.settings.order) units outcome.units := by
    intro units outcome
    simp only [check, runAt_eq_ok_iff, CheckSetup.ofUnits_eq_ok_iff]
  refine ⟨fun us vs outcome => ?_, htold, fun units outcome h => ?_, fun units path hpath h => ?_⟩
  · simp only [check, runAt_eq_ok_iff, ofUnits_append_eq_ok_iff]
    constructor
    · intro h
      obtain ⟨fs, hfs, s, a, b, ha, hb, hunits⟩ := h
      exact ⟨a, b, ⟨fs, hfs, s, ha⟩, ⟨fs, hfs, s, hb⟩, hunits⟩
    · intro h
      obtain ⟨a, b, ⟨fs, hfs, s, ha⟩, ⟨fs', hfs', s', hb⟩, hunits⟩ := h
      -- Both parts have the same file system and so the same setup.
      cases hfs.symm.trans hfs'
      obtain rfl : s = s' := Subsingleton.elim s s'
      exact ⟨fs, hfs, s, a, b, ha, hb, hunits⟩
  · obtain ⟨fs, -, s, htells⟩ := (htold units outcome).1 h
    exact map_dump_eq htells
  · cases hcheck : check units with
    | error e => exact ⟨e, rfl⟩
    | ok outcome =>
      obtain ⟨fs, hfs, s, htells⟩ := (htold units outcome).1 hcheck
      exact absurd (exists_dump_of_mem htells hpath) (h fs hfs)

end CheckRun

end Rulebook
