import Rulebook.Check.Run
import Rulebook.Proofs.Failures

/-!
# What goes into a check

A check reads a configuration, settings out of its parameters, the rule files that the settings
name, and the dumps of units. If all of that can be had (`CheckInput`), the check goes through and
tells of each dump what the checker says about it; else it fails (`result_eq_ok_iff`).

The way from the configuration to the settings leads through the registry. It changes no parameter,
since a configuration sets all that are declared (`resolveParams_params`).
-/

namespace Rulebook

/-! ## Parameters -/

namespace Registry

variable {info : CheckerInfo} {overrides p : Params}

theorem exists_resolveParams_eq_ok (h : ∀ k ∈ overrides.keys, info.params.contains k = true) :
    ∃ p, resolveParams info overrides = .ok p := by
  have hnone : (overrides.keys.find? fun k => !info.params.contains k) = none :=
    List.find?_eq_none.2 fun k hk => by simp [h k hk]
  unfold resolveParams
  rw [hnone]
  exact ⟨_, rfl⟩

/-- A declared parameter has the value that it is set to, or else its default. -/
theorem find?_of_resolveParams_eq_ok (h : resolveParams info overrides = .ok p) (name : String) :
    p.find? name = (overrides.find? name).or ((info.params.find? name).map ParamInfo.default) := by
  unfold resolveParams at h
  split at h
  · cases h
  · cases h
    rw [SortedMap.find?_union, SortedMap.find?_ofList_map]

/-- A checker whose parameters resolve is set up with them. -/
theorem build_of_resolves {r : Registry} {c : RegisteredChecker} {name : String}
    {overrides p : Params} (h : r.entry? name = some c)
    (hp : resolveParams c.info overrides = .ok p) :
    r.build name overrides = (c.setup p).mapError (.setup c.info.name) := by
  unfold build
  rw [h]
  change resolveParams c.info overrides >>= _ = _
  rw [hp]
  rfl

theorem entry?_shipped (fs : FileSystem) (ctx : ParseContext) :
    entry? (shipped fs ctx) RuleChecker.checkerName =
      some (RuleChecker.registered fs ctx ({} : LoadedRules)) := by
  simp [shipped, entry?, RuleChecker.registered, RuleChecker.info, sameName]

end Registry

namespace Config

/-- A configuration sets all declared parameters and no others. -/
theorem mem_keys_params {c : Config} {name : String} :
    name ∈ c.params.keys ↔ name ∈ RuleChecker.info.params.keys := by
  have hset : name ∈ c.params.keys ↔ name ∈ ["rules", "debug", "fail_on_error", "order"] :=
    SortedMap.mem_keys_ofList
  have hdeclared : name ∈ RuleChecker.info.params.keys ↔
      name ∈ ["rules", "debug", "fail_on_error", "order"] := SortedMap.mem_keys_ofList
  exact hset.trans hdeclared.symm

/-- The registry takes the parameters of a configuration as they are. -/
theorem resolveParams_params (c : Config) :
    Registry.resolveParams RuleChecker.info c.params = .ok c.params := by
  have hdeclared : c.params.keys.find? (fun k => !RuleChecker.info.params.contains k) = none := by
    refine List.find?_eq_none.2 fun k hk => ?_
    have hcontains : RuleChecker.info.params.contains k = true :=
      SortedMap.isSome_find?_iff.2 (mem_keys_params.1 hk)
    simp [hcontains]
  unfold Registry.resolveParams
  rw [hdeclared]
  refine congrArg Except.ok (SortedMap.union_eq_right fun k hk => mem_keys_params.2 ?_)
  rw [← SortedMap.isSome_find?_iff, SortedMap.find?_ofList_map, Option.isSome_map] at hk
  exact SortedMap.isSome_find?_iff.1 hk

end Config

/-! ## The checker -/

/-- The rule checker is set up with the values of its parameters. -/
theorem RuleChecker.build_of_values {σ : Type} [RuleEngine σ] {r : Registry} {name : String}
    {fs : FileSystem} {ctx : ParseContext} {engine : σ} {overrides p : Params}
    (hentry : r.entry? name = some (registered fs ctx engine))
    (hp : Registry.resolveParams info overrides = .ok p) :
    r.build name overrides = ((setup fs ctx engine p).map toChecker).mapError fun e =>
      .setup checkerName (.check e) := by
  rw [Registry.build_of_resolves hentry hp]
  show (((setup fs ctx engine p).map toChecker).mapError SetupError.check).mapError _ = _
  cases setup fs ctx engine p <;> rfl

/-- Without patterns nothing is resolved, and no engine comes of it. -/
theorem RuleChecker.ofSettings_eq (settings : CheckSettings) (fs : FileSystem) (ctx : ParseContext)
    (engine : LoadedRules) :
    ofSettings settings fs ctx engine =
      (Resolution.resolve fs ctx settings.policy settings.patterns engine).map fun r =>
        ⟨r.engine?, settings.debug, settings.order⟩ := by
  unfold ofSettings
  split
  · next hempty =>
    rw [List.isEmpty_iff.1 hempty]
    rfl
  · cases Resolution.resolve fs ctx settings.policy settings.patterns engine <;> rfl

/-- What a check goes by before it looks at units. -/
structure CheckSetup (fs : FileSystem) (env : Option String) (o : CheckOptions) where
  config : Config
  settings : CheckSettings
  resolution : Resolution LoadedRules
  configOf : CheckRun.configOf fs env o = .ok config
  ofParams : CheckSettings.ofParams config.params = .ok settings
  resolve : Resolution.resolve fs config.parseContext settings.policy settings.patterns
    ({} : LoadedRules) = .ok resolution

namespace CheckSetup

variable {fs : FileSystem} {env : Option String} {o : CheckOptions}

/-- The checker that comes of a setup. -/
def checker (s : CheckSetup fs env o) : RuleChecker LoadedRules :=
  ⟨s.resolution.engine?, s.settings.debug, s.settings.order⟩

/-- There is one way to set up a check at most. -/
instance : Subsingleton (CheckSetup fs env o) where
  allEq := by
    rintro ⟨config, settings, r, hconfig, hsettings, hr⟩
      ⟨config', settings', r', hconfig', hsettings', hr'⟩
    cases hconfig.symm.trans hconfig'
    cases hsettings.symm.trans hsettings'
    cases hr.symm.trans hr'
    rfl

/-- The registry sets up the rule checker from the parameters of a configuration. -/
theorem build_eq_ok_iff {ctx : ParseContext} {c : Config} {checker : Checker} :
    (Registry.shipped fs ctx).build RuleChecker.checkerName c.params = .ok checker ↔
      ∃ settings r, CheckSettings.ofParams c.params = .ok settings ∧
        Resolution.resolve fs ctx settings.policy settings.patterns ({} : LoadedRules) = .ok r ∧
        (RuleChecker.mk r.engine? settings.debug settings.order).toChecker = checker := by
  rw [RuleChecker.build_of_values (Registry.entry?_shipped fs ctx) c.resolveParams_params,
    mapError_eq_ok_iff, map_eq_ok_iff]
  unfold RuleChecker.setup
  simp only [bind_eq_ok_iff, RuleChecker.ofSettings_eq, map_eq_ok_iff]
  constructor
  · rintro ⟨_, ⟨settings, hsettings, r, hr, rfl⟩, hchecker⟩
    exact ⟨settings, r, hsettings, hr, hchecker⟩
  · rintro ⟨settings, r, hsettings, hr, hchecker⟩
    exact ⟨_, ⟨settings, hsettings, r, hr, rfl⟩, hchecker⟩

theorem checkerOf_eq_ok_iff {checker : Checker} :
    CheckRun.checkerOf fs env o = .ok checker ↔
      ∃ s : CheckSetup fs env o, s.checker.toChecker = checker := by
  unfold CheckRun.checkerOf
  simp only [bind_eq_ok_iff, mapError_eq_ok_iff, build_eq_ok_iff]
  constructor
  · rintro ⟨config, hconfig, settings, r, hsettings, hr, hchecker⟩
    exact ⟨⟨config, settings, r, hconfig, hsettings, hr⟩, hchecker⟩
  · rintro ⟨s, hchecker⟩
    exact ⟨s.config, s.configOf, s.settings, s.resolution, s.ofParams, s.resolve, hchecker⟩

end CheckSetup

/-! ## Dumps -/

/-- A dump that reads as a unit. -/
structure Dump (fs : FileSystem) where
  path : String
  text : String
  file : UnitFile
  read : fs.read path = .ok text
  parse : UnitFile.parse text = .ok file

namespace Dump

variable {fs : FileSystem}

/-- The path of a dump determines what is read from it. -/
theorem path_injective : Function.Injective (path : Dump fs → String) := by
  rintro ⟨path, text, file, hread, hparse⟩ ⟨path', text', file', hread', hparse'⟩ hpath
  obtain rfl : path = path' := hpath
  cases hread.symm.trans hread'
  cases hparse.symm.trans hparse'
  rfl

/-- What a checker says about the unit. -/
def walk (d : Dump fs) (checker : Checker) : Walk := checker.walk d.file.context d.file.unit

/-- Diagnostics with their positions in the source of the unit. -/
def result (d : Dump fs) (diagnostics : List Diagnostic) : UnitResult :=
  ⟨d.path.toUTF8, diagnostics.map fun g =>
    ⟨g, g.span.map fun s => d.file.context.lines.position s.start.toNat⟩⟩

/-- What is told of the dump, and the trace. -/
def check (d : Dump fs) (checker : Checker) : UnitResult × List String :=
  (d.result (d.walk checker).diagnostics, (d.walk checker).trace)

theorem checkDump_eq_ok_iff {checker : Checker} {path : String} {u : UnitResult × List String} :
    CheckRun.checkDump fs checker path = .ok u ↔
      ∃ d : Dump fs, d.path = path ∧ d.check checker = u := by
  unfold CheckRun.checkDump
  simp only [bind_eq_ok_iff, mapError_eq_ok_iff]
  constructor
  · rintro ⟨text, hread, file, hparse, h⟩
    exact ⟨⟨path, text, file, hread, hparse⟩, rfl, Except.ok.inj h⟩
  · rintro ⟨d, rfl, rfl⟩
    exact ⟨d.text, d.read, d.file, d.parse, rfl⟩

/-- All dumps are checked if each of them reads as a unit. -/
theorem mapM_checkDump_eq_ok_iff {checker : Checker} {paths : List String}
    {us : List (UnitResult × List String)} :
    paths.mapM (CheckRun.checkDump fs checker) = .ok us ↔
      ∃ dumps : List (Dump fs), dumps.map path = paths ∧ dumps.map (check · checker) = us := by
  induction paths generalizing us with
  | nil =>
    rw [List.mapM_nil]
    constructor
    · intro h
      exact ⟨[], rfl, Except.ok.inj h⟩
    · rintro ⟨dumps, hpaths, rfl⟩
      rw [List.map_eq_nil_iff.1 hpaths]
      rfl
  | cons path paths ih =>
    rw [List.mapM_cons]
    simp only [bind_eq_ok_iff, checkDump_eq_ok_iff, ih]
    constructor
    · rintro ⟨u, ⟨d, rfl, rfl⟩, us', ⟨dumps, rfl, rfl⟩, h⟩
      exact ⟨d :: dumps, rfl, Except.ok.inj h⟩
    · rintro ⟨dumps, hpaths, rfl⟩
      obtain ⟨d, dumps, rfl, rfl, rfl⟩ := List.map_eq_cons_iff.1 hpaths
      exact ⟨_, ⟨d, rfl, rfl⟩, _, ⟨dumps, rfl, rfl⟩, rfl⟩

/-- What is told of the units, when the checker goes over all of them. -/
theorem ofUnits_eq_ok_iff {checker : Checker} {paths : List String} {outcome : CheckOutcome} :
    (CheckRun.ofUnits fs checker paths).result = .ok outcome ↔
      ∃ dumps : List (Dump fs), dumps.map path = paths ∧
        ⟨dumps.map fun d => d.result (d.walk checker).diagnostics⟩ = outcome := by
  change Except.map _ (List.mapM id _) = _ ↔ _
  rw [List.mapM_map, map_eq_ok_iff]
  change (∃ us, paths.mapM (CheckRun.checkDump fs checker) = .ok us ∧ _) ↔ _
  simp only [mapM_checkDump_eq_ok_iff]
  constructor
  · rintro ⟨_, ⟨dumps, hpaths, rfl⟩, h⟩
    rw [List.map_map] at h
    exact ⟨dumps, hpaths, h⟩
  · rintro ⟨dumps, hpaths, h⟩
    refine ⟨_, ⟨dumps, hpaths, rfl⟩, ?_⟩
    rw [List.map_map]
    exact h

end Dump

/-! ## The check -/

/-- Everything that a check reads. -/
structure CheckInput (fs : FileSystem) (env : Option String) (o : CheckOptions) extends
    CheckSetup fs env o where
  dumps : List (Dump fs)
  paths : dumps.map Dump.path = o.units

namespace CheckInput

variable {fs : FileSystem} {env : Option String} {o : CheckOptions}

/-- Files, environment and options determine what a check reads. -/
instance : Subsingleton (CheckInput fs env o) where
  allEq := by
    rintro ⟨s, dumps, hpaths⟩ ⟨s', dumps', hpaths'⟩
    obtain rfl : s = s' := Subsingleton.elim s s'
    obtain rfl : dumps = dumps' :=
      (List.map_inj_right fun _ _ h => Dump.path_injective h).1 (hpaths.trans hpaths'.symm)
    rfl

/-- What a check tells of a dump. -/
def result (i : CheckInput fs env o) (d : Dump fs) : UnitResult :=
  d.result (d.walk i.checker.toChecker).diagnostics

/-- **A check goes through** when everything that it reads can be had, and then tells of each dump
what the checker says about it. -/
theorem result_eq_ok_iff {outcome : CheckOutcome} :
    (CheckRun.run fs env o).result = .ok outcome ↔
      ∃ i : CheckInput fs env o, ⟨i.dumps.map i.result⟩ = outcome := by
  unfold CheckRun.run
  cases hchecker : CheckRun.checkerOf fs env o with
  | error e =>
    refine iff_of_false (fun h => by cases h) ?_
    rintro ⟨i, -⟩
    cases hchecker.symm.trans (CheckSetup.checkerOf_eq_ok_iff.2 ⟨i.toCheckSetup, rfl⟩)
  | ok checker =>
    refine Dump.ofUnits_eq_ok_iff.trans ⟨?_, ?_⟩
    · rintro ⟨dumps, hpaths, houtcome⟩
      obtain ⟨s, rfl⟩ := CheckSetup.checkerOf_eq_ok_iff.1 hchecker
      exact ⟨⟨s, dumps, hpaths⟩, houtcome⟩
    · rintro ⟨i, houtcome⟩
      cases hchecker.symm.trans (CheckSetup.checkerOf_eq_ok_iff.2 ⟨i.toCheckSetup, rfl⟩)
      exact ⟨i.dumps, i.paths, houtcome⟩

end CheckInput

end Rulebook
