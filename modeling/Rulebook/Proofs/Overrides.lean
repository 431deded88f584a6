import Rulebook.Proofs.Registration

/-!
# Overriding a configuration

Overrides are put over a configuration one after the other, and the parameters of what comes of it
are handed to the registry.

**Theorem (`params_overrideAll`).** Each field has the value that was given last, or else that of
the configuration. All overrides together amount to a single one, which gives each field what was
given last. The parameters are exactly those that the rule checker declares, so that it is set up
with them as they are, and no default ever takes the place of a value.

Two overrides in turn are one (`override_override`), and by induction so is any number of them
(`overrideAll_override`). What is said of one field is said of all of them, since each is a name
with a place in the overrides and a place in the configuration (`Field`).
-/

namespace Rulebook

/-! ## One override -/

/-- One override, and then another. -/
def Overrides.andThen (o o' : Overrides) : Overrides where
  rules := o'.rules.or o.rules
  debug := o'.debug.or o.debug
  failOnError := o'.failOnError.or o.failOnError
  order := o'.order.or o.order

namespace Config

/-- What a configuration gives the rule checker. -/
inductive Field where
  | rules
  | debug
  | failOnError
  | order

namespace Field

/-- The name of the parameter. -/
def name : Field → String
  | rules => "rules"
  | debug => "debug"
  | failOnError => "fail_on_error"
  | order => "order"

/-- What an override gives. -/
def given : Field → Overrides → Option String
  | rules, o => o.rules
  | debug, o => o.debug
  | failOnError, o => o.failOnError
  | order, o => o.order

/-- The value in a configuration. -/
def value : Field → Config → String
  | rules, c => c.checker.rules
  | debug, c => c.checker.debug
  | failOnError, c => c.checker.failOnError
  | order, c => c.checker.order

theorem value_override (f : Field) (c : Config) (o : Overrides) :
    f.value (c.override o) = (f.given o).getD (f.value c) := by
  cases f <;> rfl

theorem given_andThen (f : Field) (o o' : Overrides) :
    f.given (o.andThen o') = (f.given o').or (f.given o) := by
  cases f <;> rfl

/-- The parameters of a configuration are its fields. -/
theorem find?_params_eq_some_iff {c : Config} {k v : String} :
    c.params.find? k = some v ↔ ∃ f : Field, f.name = k ∧ f.value c = v := by
  have hnames : ["rules", "debug", "fail_on_error", "order"].Nodup := by decide
  have hentry : c.params.find? k = some v ↔ (k, v) ∈ [("rules", c.checker.rules),
      ("debug", c.checker.debug), ("fail_on_error", c.checker.failOnError),
      ("order", c.checker.order)] := by
    apply SortedMap.find?_ofList_eq_some_iff
    exact hnames
  rw [hentry]
  constructor
  · intro h
    simp only [List.mem_cons, List.not_mem_nil, or_false, Prod.mk.injEq] at h
    rcases h with ⟨rfl, rfl⟩ | ⟨rfl, rfl⟩ | ⟨rfl, rfl⟩ | ⟨rfl, rfl⟩
    · exact ⟨.rules, rfl, rfl⟩
    · exact ⟨.debug, rfl, rfl⟩
    · exact ⟨.failOnError, rfl, rfl⟩
    · exact ⟨.order, rfl, rfl⟩
  · intro h
    obtain ⟨f, rfl, rfl⟩ := h
    cases f <;> simp [name, value]

end Field

theorem override_override (c : Config) (o o' : Overrides) :
    (c.override o).override o' = c.override (o.andThen o') := by
  simp only [override, Overrides.andThen, Option.getD_or]

/-! ## All overrides -/

/-- A configuration with overrides put over it in turn. -/
def overrideAll (c : Config) (os : List Overrides) : Config := os.foldl override c

/-- **Overrides in turn are one.** -/
theorem overrideAll_override (c : Config) (o : Overrides) (os : List Overrides) :
    (c.override o).overrideAll os = c.override (os.foldl Overrides.andThen o) := by
  induction os generalizing o with
  | nil => rfl
  | cons o' os ih =>
    show ((c.override o).override o').overrideAll os = _
    rw [override_override, ih, List.foldl_cons]

/-- The one override gives what was given last. -/
theorem given_foldl_andThen (f : Field) (o : Overrides) (os : List Overrides) :
    f.given (os.foldl Overrides.andThen o) = (os.filterMap f.given).getLast?.or (f.given o) := by
  induction os generalizing o with
  | nil => rfl
  | cons o' os ih =>
    rw [List.foldl_cons, ih, Field.given_andThen, ← Option.or_assoc]
    cases h : f.given o' with
    | none => rw [List.filterMap_cons_none h, Option.or_none]
    | some v => rw [List.filterMap_cons_some h, List.getLast?_cons, Option.or_some, Option.some_or]

/-- **Overriding a configuration.** Of the values that overrides give a field the last stands, or
else that of the configuration, and the packages that rule files may import are those of the
configuration. There is one override that does the same to every configuration as all of them, and
it gives each field what was given last. The parameters are the fields under their names. They
resolve to themselves against the entry of the rule checker, so that it is set up with exactly these
by whatever registry it is in; it is never unknown there, and neither is any of the parameters. -/
theorem params_overrideAll (c : Config) (os : List Overrides) :
    let c' := c.overrideAll os
    (∀ f : Field, f.value c' = ((os.filterMap f.given).getLast?).getD (f.value c)) ∧
    c'.importable = c.importable ∧
    (∃ o : Overrides, (∀ f : Field, f.given o = (os.filterMap f.given).getLast?) ∧
      ∀ base : Config, base.overrideAll os = base.override o) ∧
    (∀ k v, c'.params.find? k = some v ↔ ∃ f : Field, f.name = k ∧ f.value c' = v) ∧
    Registry.resolveParams RuleChecker.info c'.params = .ok c'.params ∧
    ∀ calls, ∀ checker ∈ (Registry.afterAll {} calls).checkers, checker.info = RuleChecker.info →
      ∀ name, sameName RuleChecker.checkerName name = true →
        let built := (Registry.afterAll {} calls).build name c'.params
        built = (checker.setup c'.params).mapError (.setup RuleChecker.checkerName) ∧
        (∀ unknown, built ≠ .error (.unknownChecker unknown)) ∧
        ∀ of param, built ≠ .error (.unknownParam of param) := by
  intro c'
  have hone (base : Config) : base.overrideAll os = base.override (os.foldl .andThen {}) :=
    base.overrideAll_override {} os
  have hgiven (f : Field) : f.given (os.foldl .andThen {}) = (os.filterMap f.given).getLast? := by
    rw [given_foldl_andThen]
    cases f <;> exact Option.or_none
  refine ⟨fun f => ?_, ?_, ⟨_, hgiven, hone⟩, fun k v => Field.find?_params_eq_some_iff,
    c'.resolveParams_params, fun calls checker hchecker hinfo name hname => ?_⟩
  · show f.value (c.overrideAll os) = _
    rw [hone, Field.value_override, hgiven]
  · show (c.overrideAll os).importable = _
    rw [hone]
    rfl
  · intro built
    have hempty : Registry.Distinct {} := List.Pairwise.nil
    have hentry : Registry.entry? (Registry.afterAll {} calls) name = some checker := by
      rw [(hempty.afterAll calls).entry?_eq_some_iff, hinfo]
      exact ⟨hchecker, hname⟩
    have hbuilt : built =
        (checker.setup c'.params).mapError (.setup RuleChecker.checkerName) := by
      have hresolves : Registry.resolveParams checker.info c'.params = .ok c'.params := by
        rw [hinfo]
        exact c'.resolveParams_params
      have h := Registry.build_of_resolves hentry hresolves
      rwa [hinfo] at h
    refine ⟨hbuilt, Registry.build_ne_unknownChecker hentry c'.params, fun of param => ?_⟩
    rw [hbuilt]
    cases checker.setup c'.params <;> simp

end Config

end Rulebook
