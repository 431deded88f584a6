import Rulebook.Check.Settings
import Rulebook.Proofs.RuleFaults
import Rulebook.Proofs.Tracing

/-!
# Which groups can be traced

The group to trace is named by a parameter, and the parameter is read without the white space
around it. A rule has the group that is written for it, as it is written, or else its name as it is
written.

**Theorem (`tracedBy_of_compile`).** A group that is not blank and has no white space around it is
traced by the parameter that names it: the group as it is written, or the name of the compiled rule.
No parameter traces a rule with any other group.

A parameter that names a group has been trimmed (`exists_debugGroup_iff`). So a group with white
space around it is out of reach, even if it is nothing but the name of the rule, which is trimmed
when the rule is compiled while the group is not.
-/

namespace Rulebook

/-! ## The parameter -/

namespace CheckSettings

theorem debugGroup_eq_some_iff {d group : String} :
    debugGroup d = some group ↔ Text.trim d = group ∧ group ≠ "" := by
  unfold debugGroup
  by_cases h : Text.trim d = ""
  · simp only [h, if_true]
    constructor
    · intro hnone
      cases hnone
    · rintro ⟨rfl, hne⟩
      exact absurd rfl hne
  · simp only [h, if_false, Option.some.injEq]
    constructor
    · rintro rfl
      exact ⟨rfl, h⟩
    · exact And.left

theorem debugGroup_of_trimmed {group : String} (htrimmed : Text.Trimmed group)
    (hne : group ≠ "") : debugGroup group = some group :=
  debugGroup_eq_some_iff.2 ⟨Text.trim_eq_self_iff.2 htrimmed, hne⟩

/-- What a parameter can name is not empty and has no white space around it. -/
theorem exists_debugGroup_iff {group : String} :
    (∃ d, debugGroup d = some group) ↔ group ≠ "" ∧ Text.Trimmed group := by
  constructor
  · rintro ⟨d, hd⟩
    obtain ⟨rfl, hne⟩ := debugGroup_eq_some_iff.1 hd
    exact ⟨hne, Text.trimmed_trim d⟩
  · rintro ⟨hne, htrimmed⟩
    exact ⟨group, debugGroup_of_trimmed htrimmed hne⟩

theorem debug_of_ofParams_eq_ok {p : Params} {settings : CheckSettings}
    (h : ofParams p = .ok settings) : settings.debug = debugGroup (p.text "debug") := by
  unfold ofParams at h
  obtain ⟨policy, -, h⟩ := bind_eq_ok_iff.1 h
  obtain ⟨order, -, h⟩ := bind_eq_ok_iff.1 h
  cases h
  rfl

/-- Parameters of which only the one for tracing is set. -/
def debugOnly (d : String) : Params := SortedMap.ofList [("debug", d)]

theorem text_debugOnly (d name : String) :
    (debugOnly d).text name = if "debug" = name then d else "" := by
  change ((SortedMap.insert ∅ "debug" d).find? name).getD "" = _
  rw [SortedMap.find?_insert]
  split <;> rfl

/-- When no other parameter is set, there is nothing that could be wrong with one. -/
theorem ofParams_debugOnly (d : String) :
    ofParams (debugOnly d) = .ok { debug := debugGroup d } := by
  have hpolicy : FailurePolicy.parse "" = .ok {} := by decide
  have horder : FindingOrder.parse "" = .ok .message := by decide
  have hpatterns : RulePattern.parseList "" = [] := by decide
  unfold ofParams
  simp only [text_debugOnly, if_true]
  rw [if_neg (by decide), if_neg (by decide), if_neg (by decide), hpolicy, horder, hpatterns]
  rfl

end CheckSettings

/-! ## The lines of a rule -/

namespace LoadedRules

/-- Every pair that a run comes by has its line in the trace, if its rule is of the group and looks
at the node. -/
theorem account_mem_trace (l : LoadedRules) (ctx : RunContext) (unit : SourceUnit) {group : String}
    {v : Visit} (hv : v ∈ reached ctx unit maxFindings (l.visits unit))
    (hgroup : v.rule.group = group) (hlooks : v.rule.matcher.LooksAt v.node) :
    v.account ctx unit ∈ (l.run { ctx with debug := some group } unit).trace := by
  rw [run_trace]
  refine List.mem_map_of_mem (List.mem_filter.2 ⟨hv, ?_⟩)
  exact decide_eq_true ⟨hgroup, hlooks⟩

end LoadedRules

/-- A rule is traced when the parameter for tracing is set to a text. -/
structure TracedBy (d : String) (rule : Rule) : Prop where
  /-- The parameter can be set to the text. -/
  settable : ∃ p, Params.text p "debug" = d ∧ ∃ settings, CheckSettings.ofParams p = .ok settings
  /-- Whatever else is set, the group of the rule is the one to trace. -/
  debug : ∀ p settings, Params.text p "debug" = d → CheckSettings.ofParams p = .ok settings →
    settings.debug = some rule.group
  /-- Every run then accounts for the nodes that it comes by and that the rule looks at. -/
  lines : ∀ (l : LoadedRules) (ctx : RunContext) (unit : SourceUnit),
    ∃ seen, ComesBy ctx unit maxFindings (l.visits unit) seen ∧
      ∀ v ∈ seen, v.rule = rule → rule.matcher.LooksAt v.node →
        v.account ctx unit ∈ (l.run { ctx with debug := some rule.group } unit).trace

/-- A parameter traces the rules whose group it names. -/
theorem tracedBy_iff {d : String} {rule : Rule} :
    TracedBy d rule ↔ CheckSettings.debugGroup d = some rule.group := by
  constructor
  · intro h
    obtain ⟨p, hp, settings, hsettings⟩ := h.settable
    rw [← hp, ← CheckSettings.debug_of_ofParams_eq_ok hsettings]
    exact h.debug p settings hp hsettings
  · intro h
    constructor
    case settable =>
      exact ⟨CheckSettings.debugOnly d, CheckSettings.text_debugOnly d "debug", _,
        CheckSettings.ofParams_debugOnly d⟩
    case debug =>
      intro p settings hp hsettings
      rw [CheckSettings.debug_of_ofParams_eq_ok hsettings, hp, h]
    case lines =>
      intro l ctx unit
      refine ⟨reached ctx unit maxFindings (l.visits unit), comesBy_reached ctx unit _ _, ?_⟩
      rintro v hv rfl hlooks
      exact l.account_mem_trace ctx unit hv rfl hlooks

/-- The parameter that should trace a rule: the group that is written for it, or else the name of
the compiled rule. -/
def RuleSource.tracingText (r : RuleSource) (rule : Rule) : String := r.group.getD rule.name

/-- **What can be traced.** In a file that compiles, a rule whose group is not blank and has no
white space around it is traced by its group as it is written, or, if none is written, by the name
of the compiled rule. A rule with any other group is not traced by any parameter. -/
theorem tracedBy_of_compile {ctx : ParseContext} {file content : String} {set : RuleSet}
    (h : RuleFile.compile ctx file content = .ok set) :
    ∃ parsed, Toml.decode RuleFile.ofData content = .ok parsed ∧
      List.Forall₂ (fun r rule =>
        let group := r.group.getD r.name.text
        let traceable := Text.allBlank group = false ∧ Text.Trimmed group
        (traceable → TracedBy (r.tracingText rule) rule) ∧
        ((∃ d, TracedBy d rule) → traceable)) parsed.rules set.rules := by
  obtain ⟨parsed, rules, hd, -, hrules, rfl⟩ := RuleFile.compile_eq_ok_iff.1 h
  refine ⟨parsed, hd, (RuleFile.forall₂_compiles_of_compileRules_eq_ok hrules).imp ?_⟩
  intro r rule hr
  refine ⟨?_, ?_⟩
  · rintro ⟨hblank, htrimmed⟩
    rw [tracedBy_iff, hr.group]
    have hne := Text.ne_empty_of_allBlank hblank
    have htext : r.tracingText rule = r.group.getD r.name.text := by
      unfold RuleSource.tracingText
      cases hgroup : r.group with
      | some group => rfl
      | none =>
        -- The name of the rule is its group, so it is not changed when it is trimmed.
        rw [hgroup] at htrimmed
        rw [Option.getD_none, Option.getD_none, hr.name]
        exact Text.trim_eq_self_iff.2 htrimmed
    rw [htext]
    exact CheckSettings.debugGroup_of_trimmed htrimmed hne
  · simp only [tracedBy_iff, hr.group, CheckSettings.exists_debugGroup_iff]
    rintro ⟨hne, htrimmed⟩
    exact ⟨htrimmed.allBlank hne, htrimmed⟩

/-- A rule without a group of its own is traced by its name. -/
theorem tracedBy_of_compile_name :
    ∃ rule, RuleFile.compile {} "f" "[[rules]]\nname='r'\nmatch.kind='k'\nreport.message='m'" =
      .ok ⟨"f", none, [rule]⟩ ∧ rule.name = "r" ∧ TracedBy "r" rule := by
  have hdecode : Toml.decode RuleFile.ofData
      "[[rules]]\nname='r'\nmatch.kind='k'\nreport.message='m'" =
        .ok { rules := [⟨⟨"r", ⟨15, 18⟩⟩, none, none, { kinds := some ["k"] }, "m"⟩] } := by
    decide +kernel
  let rule : Rule :=
    ⟨"r", "r", none, ⟨some ["k"], none, none, none, none, none⟩, ⟨[.literal "m"]⟩⟩
  have hcompile : RuleFile.compile {} "f"
      "[[rules]]\nname='r'\nmatch.kind='k'\nreport.message='m'" = .ok ⟨"f", none, [rule]⟩ := by
    decide +kernel
  obtain ⟨parsed, hparsed, hall⟩ := tracedBy_of_compile hcompile
  cases hdecode.symm.trans hparsed
  cases hall with
  | cons hrule _ =>
    have htrim : Text.trim "r" = "r" := by decide
    exact ⟨rule, hcompile, rfl, hrule.1 ⟨by decide, Text.trim_eq_self_iff.1 htrim⟩⟩

/-- With white space around its name, no parameter traces it. -/
theorem not_tracedBy_padded_name :
    ∃ rule, RuleFile.compile {} "f" "[[rules]]\nname=' r '\nmatch.kind='k'\nreport.message='m'" =
      .ok ⟨"f", none, [rule]⟩ ∧ rule.name = "r" ∧ Text.allBlank rule.group = false ∧
      ∀ d, ¬ TracedBy d rule := by
  let rule : Rule :=
    ⟨"r", " r ", none, ⟨some ["k"], none, none, none, none, none⟩, ⟨[.literal "m"]⟩⟩
  refine ⟨rule, by decide +kernel, rfl, by decide, fun d hd => ?_⟩
  obtain ⟨-, htrimmed⟩ := CheckSettings.exists_debugGroup_iff.1 ⟨d, tracedBy_iff.1 hd⟩
  exact absurd (htrimmed.head ' ' (by decide)) (by decide)

end Rulebook
