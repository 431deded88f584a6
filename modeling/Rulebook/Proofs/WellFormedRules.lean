import Rulebook.Proofs.Loading
import Rulebook.Proofs.Variables

/-!
# Loaded rules are well formed

**Theorem (`wellFormed_afterAll`).** However an engine has come about, its rules are well formed:
each is named, and named differently from the other rules of its file; it has a condition, and its
patterns are short; its message is not empty and refers to variables that there are. So when a
message is rendered, a variable without a value can only be a group that took no part in the match.

Whether a rule is well formed is settled when it is compiled (`wellFormed_of_compiles`), by the
name, the conditions and the template in turn. That names differ is kept up by the loop over the
rules of a file, which remembers the names it has met (`nodup_map_name`). An engine holds nothing
but files that have compiled.
-/

namespace Rulebook

/-! ## Conditions -/

theorem Regex.pattern_of_compile_eq_ok {pattern : String} {r : Regex}
    (h : Regex.compile pattern = .ok r) : r.pattern = pattern := by
  unfold Regex.compile at h
  split at h
  · cases h
  · split at h
    · cases h
      rfl
    · cases h

/-- A pattern that compiles is short. -/
theorem utf8ByteSize_pattern_le {pattern : String} {r : Regex}
    (h : compilePattern pattern = .ok r) : r.pattern.utf8ByteSize ≤ maxPatternLength := by
  rw [Regex.pattern_of_compile_eq_ok (compilePattern_eq_ok h)]
  unfold compilePattern at h
  split at h
  · cases h
  · next hlt => exact Nat.le_of_not_lt hlt

namespace Matcher

/-- The patterns among the conditions. -/
def patterns (k : Matcher) : List Regex := [k.text, k.notText, k.type, k.path].filterMap id

/-- A condition is compiled if it is given, and only then. -/
inductive ClauseCompiles : Option String → Option Regex → Prop
  | absent : ClauseCompiles none none
  | given {pattern : String} {r : Regex} : compilePattern pattern = .ok r →
      ClauseCompiles (some pattern) (some r)

theorem clauseCompiles_of_eq_ok {c : Clause} {pattern : Option String} {r : Option Regex}
    (h : compileClause c pattern = .ok r) : ClauseCompiles pattern r := by
  unfold compileClause at h
  split at h
  · cases h
    exact .absent
  · split at h
    · next hr =>
      cases h
      exact .given hr
    · cases h

theorem ClauseCompiles.isSome_eq {pattern : Option String} {r : Option Regex}
    (h : ClauseCompiles pattern r) : r.isSome = pattern.isSome := by
  cases h <;> rfl

theorem ClauseCompiles.short {pattern : Option String} {r : Regex}
    (h : ClauseCompiles pattern (some r)) : r.pattern.utf8ByteSize ≤ maxPatternLength := by
  cases h with
  | given h => exact utf8ByteSize_pattern_le h

/-- Conditions as they are compiled. -/
structure Compiles (m : MatchSource) (k : Matcher) : Prop where
  given : m.isEmpty = false
  kinds : k.kinds = m.kinds
  packages : k.packages = m.packages
  text : ClauseCompiles m.textPattern k.text
  notText : ClauseCompiles m.notTextPattern k.notText
  type : ClauseCompiles m.typePattern k.type
  path : ClauseCompiles m.pathPattern k.path

theorem compiles_of_compile_eq_ok {m : MatchSource} {k : Matcher} (h : compile m = .ok k) :
    Compiles m k := by
  unfold compile at h
  split at h
  · cases h
  · next hgiven =>
    obtain ⟨text, htext, h⟩ := bind_eq_ok_iff.1 h
    obtain ⟨notText, hnotText, h⟩ := bind_eq_ok_iff.1 h
    obtain ⟨type, htype, h⟩ := bind_eq_ok_iff.1 h
    obtain ⟨path, hpath, h⟩ := bind_eq_ok_iff.1 h
    cases h
    exact ⟨by simpa using hgiven, rfl, rfl, clauseCompiles_of_eq_ok htext,
      clauseCompiles_of_eq_ok hnotText, clauseCompiles_of_eq_ok htype,
      clauseCompiles_of_eq_ok hpath⟩

/-- Some condition is there. -/
def HasCondition (k : Matcher) : Prop := k ≠ ⟨none, none, none, none, none, none⟩

theorem Compiles.hasCondition {m : MatchSource} {k : Matcher} (h : Compiles m k) :
    k.HasCondition := by
  rintro rfl
  have hgiven := h.given
  unfold MatchSource.isEmpty at hgiven
  simp [← h.kinds, ← h.packages, ← Option.not_isSome, ← h.text.isSome_eq,
    ← h.notText.isSome_eq, ← h.type.isSome_eq, ← h.path.isSome_eq] at hgiven

theorem Compiles.short {m : MatchSource} {k : Matcher} (h : Compiles m k) :
    ∀ r ∈ k.patterns, r.pattern.utf8ByteSize ≤ maxPatternLength := by
  intro r hr
  obtain ⟨_, hmem, hr⟩ := List.mem_filterMap.1 hr
  simp only [List.mem_cons, List.not_mem_nil, or_false] at hmem
  rw [id_eq] at hr
  rcases hmem with rfl | rfl | rfl | rfl
  · exact (hr ▸ h.text).short
  · exact (hr ▸ h.notText).short
  · exact (hr ▸ h.type).short
  · exact (hr ▸ h.path).short

end Matcher

/-! ## Rules -/

/-- What every rule has that can be run. -/
structure Rule.WellFormed (rule : Rule) : Prop where
  named : rule.name ≠ ""
  trimmed : Text.Trimmed rule.name
  hasCondition : rule.matcher.HasCondition
  short : ∀ r ∈ rule.matcher.patterns, r.pattern.utf8ByteSize ≤ 500
  groups : rule.matcher.captureNames.Nodup
  notEmpty : rule.message.segments ≠ []
  known : ∀ name ∈ rule.message.variableNames,
    name ∈ Template.builtins ∨ name ∈ rule.matcher.captureNames

/-- **Compiled rules are well formed.** -/
theorem Rule.wellFormed_of_compiles {r : RuleSource} {rule : Rule} (h : r.Compiles rule) :
    rule.WellFormed := by
  have hmatcher := Matcher.compiles_of_compile_eq_ok h.matcher
  constructor
  case named => exact h.name ▸ h.named
  case trimmed => exact h.name ▸ Text.trimmed_trim _
  case hasCondition => exact hmatcher.hasCondition
  case short => exact hmatcher.short
  case groups => exact Matcher.nodup_captureNames h.matcher
  case notEmpty => exact Template.segments_ne_nil h.message
  case known =>
    intro name hname
    rw [Matcher.captureNames_of_compile_eq_ok h.matcher]
    exact Template.isKnown_of_mem_variableNames h.message hname

/-- A variable that has no value in a match is a group that took no part. -/
theorem Rule.WellFormed.groupOutcome_of_value?_eq_none {rule : Rule} (h : rule.WellFormed)
    {ctx : RunContext} {unit : SourceUnit} {node : Node} {captures : SortedMap String String}
    (hmatch : rule.matcher.evaluate ctx unit node = .matched captures) {name : String}
    (hname : name ∈ rule.message.variableNames)
    (hvalue : Visit.value? ctx unit node captures name = none) :
    rule.matcher.GroupOutcome node name none := by
  obtain ⟨hfind, hbuiltin⟩ := (Visit.value?_eq_none_iff ctx unit node).1 hvalue
  have hcaptures := Matcher.captures?_of_evaluate_eq_matched hmatch
  have hgroup := (h.known name hname).resolve_left hbuiltin
  obtain ⟨outcome, houtcome⟩ := Matcher.exists_groupOutcome hcaptures hgroup
  cases outcome with
  | none => exact houtcome
  | some t => cases hfind.symm.trans ((Matcher.find?_eq_some_iff h.groups hcaptures).2 houtcome)

/-- The rules of a file are well formed, and no two have the same name. -/
structure RuleSet.WellFormed (set : RuleSet) : Prop where
  rules : ∀ rule ∈ set.rules, rule.WellFormed
  nodup : (set.rules.map Rule.name).Nodup

/-- **The loop over the rules** takes names that are new to it. -/
theorem RuleFile.nodup_map_name {seen : List String} {rs : List RuleSource} {rules : List Rule}
    (h : compileRules seen rs = .ok rules) :
    (rules.map Rule.name).Nodup ∧ ∀ name ∈ rules.map Rule.name, name ∉ seen := by
  induction rs generalizing seen rules with
  | nil =>
    cases h
    simp
  | cons r rs ih =>
    simp only [compileRules] at h
    split at h
    · cases h
    · next hseen =>
      cases hrule : r.compile with
      | error fault =>
        rw [hrule] at h
        cases h
      | ok rule =>
        rw [hrule] at h
        obtain ⟨rest, hrest, rfl⟩ := map_eq_ok_iff.1 h
        have hname : rule.name = r.trimmedName := (RuleSource.compiles_of_compile_eq_ok hrule).name
        obtain ⟨hnodup, hnew⟩ := ih hrest
        rw [List.map_cons, hname]
        refine ⟨List.nodup_cons.2 ⟨fun hmem => ?_, hnodup⟩, fun name hmem => ?_⟩
        · exact hnew _ hmem (List.mem_cons_self)
        · rcases List.mem_cons.1 hmem with rfl | hmem
          · simpa using hseen
          · exact fun hbefore => hnew name hmem (List.mem_cons_of_mem _ hbefore)

theorem RuleSet.wellFormed_of_compile_eq_ok {ctx : ParseContext} {file content : String}
    {set : RuleSet} (h : RuleFile.compile ctx file content = .ok set) : set.WellFormed := by
  obtain ⟨parsed, rules, -, -, hrules, rfl⟩ := RuleFile.compile_eq_ok_iff.1 h
  constructor
  case rules =>
    intro rule hrule
    obtain ⟨r, -, hr⟩ := RuleFile.exists_compiles_of_mem hrules hrule
    exact Rule.wellFormed_of_compiles hr
  case nodup => exact (RuleFile.nodup_map_name hrules).1

namespace LoadedRules

/-- **Loaded rules are well formed.** After any calls every file that is held has well-formed rules.
In every run over every unit, a variable of a message that has no value when the message is rendered
is a group of the text pattern that took no part in the match. -/
theorem wellFormed_afterAll (calls : List LoadCall) :
    (∀ set ∈ (afterAll {} calls).sets, set.WellFormed) ∧
    ∀ ctx unit, ∀ v ∈ (afterAll {} calls).visits unit, ∀ captures,
      v.verdict ctx unit = .matched captures → ∀ name ∈ v.rule.message.variableNames,
        Visit.value? ctx unit v.node captures name = none →
          v.rule.matcher.GroupOutcome v.node name none := by
  have hwell : ∀ set ∈ (afterAll {} calls).sets, set.WellFormed := by
    intro set hset
    obtain ⟨c, -, hc⟩ := mem_sets_afterAll_iff.1 hset
    exact RuleSet.wellFormed_of_compile_eq_ok hc
  refine ⟨hwell, fun ctx unit v hv captures hmatch name hname hvalue => ?_⟩
  obtain ⟨-, set, hset, -, hrule⟩ := mem_visits_iff.1 hv
  exact ((hwell set hset).rules v.rule hrule).groupOutcome_of_value?_eq_none hmatch hname hvalue

end LoadedRules

end Rulebook
