import Rulebook.Proofs.GroupNames
import Rulebook.Proofs.RuleFaults
import Rulebook.Proofs.Templates
import Rulebook.Rule.Loaded

/-!
# What variables stand for

A variable of a message is named after a group of the text pattern or after a builtin. `Stands` says
what it is to stand for: a group for what it captured in the match, or for nothing if it took no
part; any other variable for the value of the builtin.

**Theorem (`stands_of_compile`).** Every variable of a message does so, with one exception. A group
that took no part in the match and has the name of a builtin lets the builtin through.

What was captured is kept under the names of the groups, and groups that took no part are not kept
at all. A name is looked up there first and then among the builtins, so the two kinds of absence,
that of a group and that of its capture, cannot be told apart (`value?_of_find?_eq_none`). That the
text of a name is the capture of its one group rests on the names being different
(`find?_eq_some_iff`).
-/

namespace Rulebook

/-! ## Groups in a match -/

namespace Matcher

variable {k : Matcher} {node : Node} {captures : SortedMap String String} {name : String}

/-- In the first match of the text pattern in the text of a node, this is what a named group
captured, if it took part. -/
def GroupOutcome (k : Matcher) (node : Node) (name : String) (outcome : Option String) : Prop :=
  ∃ r slots i, k.text = some r ∧ Regex.search r.program node.text.toList.toArray = some slots ∧
    (i, name) ∈ r.namedGroups ∧ Regex.slice node.text.toList.toArray slots i = outcome

theorem captures?_of_evaluate_eq_matched {ctx : RunContext} {unit : SourceUnit}
    (h : k.evaluate ctx unit node = .matched captures) : k.captures? node = some captures := by
  unfold evaluate at h
  cases hcaptures : k.captures? node with
  | none =>
    simp only [hcaptures] at h
    split_ifs at h
  | some kept =>
    simp only [hcaptures] at h
    split_ifs at h
    cases h
    rfl

/-- A matched node has been searched for the text pattern, if there is one. -/
theorem captures?_eq_some_iff : k.captures? node = some captures ↔
    k.text = none ∧ captures = ∅ ∨
      ∃ r slots, k.text = some r ∧ Regex.search r.program node.text.toList.toArray = some slots ∧
        captures = SortedMap.ofList (r.namedGroups.filterMap fun g =>
          (Regex.slice node.text.toList.toArray slots g.1).map fun t => (g.2, t)) := by
  unfold captures? Regex.captures
  cases k.text with
  | none => simp [eq_comm]
  | some r => simp [eq_comm]

/-- Every named group of the text pattern took part in a match or did not. -/
theorem exists_groupOutcome (h : k.captures? node = some captures) (hname : name ∈ k.captureNames) :
    ∃ outcome, k.GroupOutcome node name outcome := by
  rcases captures?_eq_some_iff.1 h with ⟨hnone, -⟩ | ⟨r, slots, hr, hslots, -⟩
  · rw [captureNames, hnone] at hname
    cases hname
  · rw [captureNames, hr] at hname
    obtain ⟨g, hg, rfl⟩ := List.mem_map.1 hname
    exact ⟨_, r, slots, g.1, hr, hslots, hg, rfl⟩

theorem GroupOutcome.mem_captureNames {outcome : Option String}
    (h : k.GroupOutcome node name outcome) : name ∈ k.captureNames := by
  obtain ⟨r, slots, i, hr, -, hi, -⟩ := h
  rw [captureNames, hr]
  exact List.mem_map.2 ⟨(i, name), hi, rfl⟩

/-- A name has one group at most. -/
theorem GroupOutcome.unique (hnodup : k.captureNames.Nodup) {outcome outcome' : Option String}
    (h : k.GroupOutcome node name outcome) (h' : k.GroupOutcome node name outcome') :
    outcome = outcome' := by
  obtain ⟨r, slots, i, hr, hslots, hi, rfl⟩ := h
  obtain ⟨r', slots', i', hr', hslots', hi', rfl⟩ := h'
  cases hr.symm.trans hr'
  cases hslots.symm.trans hslots'
  rw [captureNames, hr] at hnodup
  cases List.inj_on_of_nodup_map hnodup hi hi' rfl
  rfl

/-- What is kept under a name is what the group of that name captured. -/
theorem find?_eq_some_iff (hnodup : k.captureNames.Nodup) (h : k.captures? node = some captures)
    {t : String} : captures.find? name = some t ↔ k.GroupOutcome node name (some t) := by
  rcases captures?_eq_some_iff.1 h with ⟨hnone, rfl⟩ | ⟨r, slots, hr, hslots, rfl⟩
  · simp [GroupOutcome, hnone]
  · have hdifferent : r.namedGroups.Pairwise fun g g' => g.2 ≠ g'.2 := by
      rw [captureNames, hr] at hnodup
      exact List.pairwise_map.1 hnodup
    have hkeys : ((r.namedGroups.filterMap fun g =>
        (Regex.slice node.text.toList.toArray slots g.1).map fun t => (g.2, t)).map
          Prod.fst).Nodup := by
      refine List.pairwise_map.2 (List.pairwise_filterMap.2 (hdifferent.imp ?_))
      intro g g' hne b hb b' hb'
      obtain ⟨_, -, rfl⟩ := Option.map_eq_some_iff.1 hb
      obtain ⟨_, -, rfl⟩ := Option.map_eq_some_iff.1 hb'
      exact hne
    rw [SortedMap.find?_ofList_eq_some_iff hkeys]
    simp only [List.mem_filterMap, Option.map_eq_some_iff]
    constructor
    · rintro ⟨g, hg, _, hslice, heq⟩
      cases heq
      exact ⟨r, slots, g.1, hr, hslots, hg, hslice⟩
    · rintro ⟨r', slots', i, hr', hslots', hi, hslice⟩
      cases hr.symm.trans hr'
      cases hslots.symm.trans hslots'
      exact ⟨(i, name), hi, t, hslice, rfl⟩

/-- Nothing is kept under the name of a group that took no part. -/
theorem find?_eq_none_of_groupOutcome (hnodup : k.captureNames.Nodup)
    (h : k.captures? node = some captures) (hout : k.GroupOutcome node name none) :
    captures.find? name = none := by
  cases hfind : captures.find? name with
  | none => rfl
  | some t => cases ((find?_eq_some_iff hnodup h).1 hfind).unique hnodup hout

/-- Nothing is kept but under the names of groups. -/
theorem find?_eq_none_of_not_mem (h : k.captures? node = some captures)
    (hname : name ∉ k.captureNames) : captures.find? name = none := by
  rcases captures?_eq_some_iff.1 h with ⟨-, rfl⟩ | ⟨r, slots, hr, -, rfl⟩
  · rfl
  · refine Option.not_isSome_iff_eq_none.1 fun hsome => hname ?_
    obtain ⟨e, he, rfl⟩ := List.mem_map.1
      (SortedMap.mem_keys_ofList.1 (SortedMap.isSome_find?_iff.1 hsome))
    obtain ⟨g, hg, he⟩ := List.mem_filterMap.1 he
    obtain ⟨_, -, rfl⟩ := Option.map_eq_some_iff.1 he
    rw [captureNames, hr]
    exact List.mem_map_of_mem hg

/-- The groups of a compiled matcher have different names. -/
theorem nodup_captureNames {m : MatchSource} (h : compile m = .ok k) : k.captureNames.Nodup := by
  rw [captureNames_of_compile_eq_ok h]
  unfold MatchSource.groupNames
  cases hp : m.textPattern with
  | none => exact List.nodup_nil
  | some p =>
    cases hr : Regex.compile p with
    | error e =>
      simp only [Option.map_some, hr]
      exact List.nodup_nil
    | ok r =>
      simp only [Option.map_some, hr]
      exact Regex.nodup_groupNames hr

end Matcher

/-! ## Builtins -/

namespace Visit

variable (ctx : RunContext) (unit : SourceUnit) (node : Node)

/-- The builtin variables with their values for a node. -/
def builtinValues : List (String × String) :=
  let position := ctx.lines.position node.span.start.toNat
  [("text", node.text), ("kind", node.kind), ("type", (ctx.types.find? node.id).getD ""),
    ("line", toString position.line), ("column", toString position.column),
    ("package", if ctx.package.name = "" then unit.package else ctx.package.name)]

theorem map_fst_builtinValues :
    (builtinValues ctx unit node).map Prod.fst = Template.builtins := rfl

variable {captures : SortedMap String String} {name : String}

theorem value?_of_find?_eq_some {t : String} (h : captures.find? name = some t) :
    value? ctx unit node captures name = some t := by
  unfold value?
  rw [h]

/-- A name under which nothing is kept has the value of a builtin, if any. -/
theorem value?_eq_some_iff_of_find?_eq_none (h : captures.find? name = none) {t : String} :
    value? ctx unit node captures name = some t ↔ (name, t) ∈ builtinValues ctx unit node := by
  unfold value? builtinValues RunContext.packageName
  rw [h]
  dsimp only
  rw [eq_comm (b := some t)]
  split <;> simp_all

theorem exists_mem_builtinValues_iff :
    (∃ t, (name, t) ∈ builtinValues ctx unit node) ↔ name ∈ Template.builtins := by
  rw [← map_fst_builtinValues ctx unit node, List.mem_map]
  constructor
  · rintro ⟨t, ht⟩
    exact ⟨_, ht, rfl⟩
  · rintro ⟨⟨_, t⟩, ht, rfl⟩
    exact ⟨t, ht⟩

/-- What has no value is neither captured nor builtin. -/
theorem value?_eq_none_iff : value? ctx unit node captures name = none ↔
    captures.find? name = none ∧ name ∉ Template.builtins := by
  cases h : captures.find? name with
  | some t => simp [value?_of_find?_eq_some ctx unit node h]
  | none =>
    rw [← exists_mem_builtinValues_iff ctx unit node, Option.eq_none_iff_forall_ne_some]
    simp only [ne_eq, value?_eq_some_iff_of_find?_eq_none ctx unit node h, true_and, not_exists]

end Visit

/-! ## Variables -/

/-- What a variable is to stand for in a message about a node. -/
inductive Stands (k : Matcher) (ctx : RunContext) (unit : SourceUnit) (node : Node)
    (name : String) : String → Prop
  /-- A group that took part in the match stands for what it captured. -/
  | captured {t : String} : k.GroupOutcome node name (some t) → Stands k ctx unit node name t
  /-- A group that took no part stands for nothing. -/
  | leftOut : k.GroupOutcome node name none → Stands k ctx unit node name ""
  /-- Any other variable stands for the value of the builtin. -/
  | builtin {t : String} : name ∉ k.captureNames →
      (name, t) ∈ Visit.builtinValues ctx unit node → Stands k ctx unit node name t

/-- A group took no part in the match, and a builtin has its name. -/
def LetsBuiltinThrough (k : Matcher) (node : Node) (name : String) : Prop :=
  k.GroupOutcome node name none ∧ name ∈ Template.builtins

/-- A group that took no part is to stand for nothing, whatever its name. -/
theorem stands_iff_of_leftOut {k : Matcher} {ctx : RunContext} {unit : SourceUnit} {node : Node}
    {name t : String} (hnodup : k.captureNames.Nodup) (hout : k.GroupOutcome node name none) :
    Stands k ctx unit node name t ↔ t = "" := by
  constructor
  · intro h
    cases h with
    | captured h => cases h.unique hnodup hout
    | leftOut => rfl
    | builtin h => exact absurd hout.mem_captureNames h
  · rintro rfl
    exact .leftOut hout

section Shown

variable {k : Matcher} {ctx : RunContext} {unit : SourceUnit} {node : Node}
  {captures : SortedMap String String} {name : String}

/-- The text that is put in for a variable. -/
def shown (ctx : RunContext) (unit : SourceUnit) (node : Node)
    (captures : SortedMap String String) (name : String) : String :=
  Segment.render (Visit.value? ctx unit node captures) (.ref name)

theorem shown_eq :
    shown ctx unit node captures name = (Visit.value? ctx unit node captures name).getD "" := rfl

theorem mem_builtinValues_shown (h : captures.find? name = none)
    (hbuiltin : name ∈ Template.builtins) :
    (name, shown ctx unit node captures name) ∈ Visit.builtinValues ctx unit node := by
  obtain ⟨t, ht⟩ := (Visit.exists_mem_builtinValues_iff ctx unit node).2 hbuiltin
  have hvalue := (Visit.value?_eq_some_iff_of_find?_eq_none ctx unit node h).2 ht
  rwa [shown_eq, hvalue, Option.getD_some]

/-- A name that is known stands for what it is to stand for, unless it lets a builtin through. -/
theorem stands_shown (hnodup : k.captureNames.Nodup) (hmatch : k.captures? node = some captures)
    (hknown : name ∈ Template.builtins ∨ name ∈ k.captureNames)
    (hthrough : ¬ LetsBuiltinThrough k node name) :
    Stands k ctx unit node name (shown ctx unit node captures name) := by
  by_cases hname : name ∈ k.captureNames
  · obtain ⟨outcome, houtcome⟩ := Matcher.exists_groupOutcome hmatch hname
    cases outcome with
    | some t =>
      have hfind := (Matcher.find?_eq_some_iff hnodup hmatch).2 houtcome
      rw [shown_eq, Visit.value?_of_find?_eq_some ctx unit node hfind, Option.getD_some]
      exact .captured houtcome
    | none =>
      have hfind := Matcher.find?_eq_none_of_groupOutcome hnodup hmatch houtcome
      have hbuiltin : name ∉ Template.builtins := fun h => hthrough ⟨houtcome, h⟩
      rw [shown_eq, (Visit.value?_eq_none_iff ctx unit node).2 ⟨hfind, hbuiltin⟩, Option.getD_none]
      exact .leftOut houtcome
  · have hfind := Matcher.find?_eq_none_of_not_mem hmatch hname
    exact .builtin hname (mem_builtinValues_shown hfind (hknown.resolve_right hname))

end Shown

/-- **What variables stand for.** In the message about a node that a rule matches, every variable
that is named after a group of the text pattern stands for what the group captured, or for nothing
if it took no part in the match, and every other variable for the value of its builtin. The only
exception is a group that took no part and has the name of a builtin: it stands for the value of the
builtin. -/
theorem stands_of_compile {r : RuleSource} {rule : Rule} (hrule : r.compile = .ok rule)
    (ctx : RunContext) (unit : SourceUnit) {node : Node} {captures : SortedMap String String}
    (hmatch : rule.matcher.evaluate ctx unit node = .matched captures) {name : String}
    (hname : name ∈ rule.message.variableNames) :
    (¬ LetsBuiltinThrough rule.matcher node name →
      Stands rule.matcher ctx unit node name (shown ctx unit node captures name)) ∧
    (LetsBuiltinThrough rule.matcher node name →
      (name, shown ctx unit node captures name) ∈ Visit.builtinValues ctx unit node) := by
  have hcompiles := RuleSource.compiles_of_compile_eq_ok hrule
  have hnodup := Matcher.nodup_captureNames hcompiles.matcher
  have hcaptures := Matcher.captures?_of_evaluate_eq_matched hmatch
  refine ⟨stands_shown hnodup hcaptures ?_, fun hthrough => ?_⟩
  · rw [Matcher.captureNames_of_compile_eq_ok hcompiles.matcher]
    exact Template.isKnown_of_mem_variableNames hcompiles.message hname
  · have hfind := Matcher.find?_eq_none_of_groupOutcome hnodup hcaptures hthrough.1
    exact mem_builtinValues_shown hfind hthrough.2

/-- A rule whose text pattern has a group that need not take part and is named like a builtin. -/
def optionalKind : RuleSource where
  name := ⟨"r", ⟨0, 1⟩⟩
  conditions := { textPattern := some "(?P<kind>x)?y" }
  message := "[$kind] $line"

/-- The text pattern of this rule. -/
def optionalKindPattern : Regex :=
  let group : Regex.Expr := .group 1 (some "kind") (.set (.single 'x'))
  let expr : Regex.Expr := .seq (.rep 0 (some 1) true group) (.set (.single 'y'))
  ⟨"(?P<kind>x)?y", expr, .compile expr⟩

/-- The rule as it is compiled. -/
def optionalKindRule : Rule where
  name := "r"
  group := "r"
  description := none
  matcher := ⟨none, some optionalKindPattern, none, none, none, none⟩
  message := ⟨[.literal "[", .ref "kind", .literal "] ", .ref "line"]⟩

theorem compile_optionalKind : optionalKind.compile = .ok optionalKindRule := by decide +kernel

theorem search_optionalKind : Regex.search optionalKindPattern.program "y".toList.toArray =
    some #[some 0, some 1, none, none] ∧
    Regex.search optionalKindPattern.program "xy".toList.toArray =
      some #[some 0, some 2, some 0, some 1] := by
  have hcode : optionalKindPattern.program = ⟨#[.accept, .save 1 0, .set (.single 'y') 1, .save 3 2,
    .set (.single 'x') 3, .save 2 4, .split 5 2, .save 0 6], 7, 4⟩ := rfl
  have hyy : (CharSet.single 'y').contains 'y' = true := by decide +kernel
  have hxy : (CharSet.single 'x').contains 'y' = false := by decide +kernel
  have hxx : (CharSet.single 'x').contains 'x' = true := by decide +kernel
  rw [hcode]
  simp [Regex.search, Regex.searchFrom, Regex.explore, hyy, hxy, hxx, Array.replicate]

/-- In a match in which the group takes part, its name stands for what it captured. -/
theorem stands_of_compile_kind :
    let ctx : RunContext := { lines := .ofSource "p" "" }
    let unit : SourceUnit := { path := "p" }
    let node : Node := ⟨0, "call", {}, "xy"⟩
    ∃ rule captures, optionalKind.compile = .ok rule ∧
      rule.matcher.evaluate ctx unit node = .matched captures ∧
      rule.message.variableNames = ["kind", "line"] ∧
      Stands rule.matcher ctx unit node "kind" "x" ∧
      Stands rule.matcher ctx unit node "line" "1" := by
  intro ctx unit node
  let slots : Array (Option Nat) := #[some 0, some 2, some 0, some 1]
  let captures : SortedMap String String := .ofList [("kind", "x")]
  have hcaptures : optionalKindRule.matcher.captures? node = some captures :=
    Matcher.captures?_eq_some_iff.2
      (.inr ⟨optionalKindPattern, slots, rfl, search_optionalKind.2, by decide +kernel⟩)
  have hmatch : optionalKindRule.matcher.evaluate ctx unit node = .matched captures := by
    unfold Matcher.evaluate
    rw [hcaptures]
    decide
  have hnodup : optionalKindRule.matcher.captureNames.Nodup := by decide +kernel
  refine ⟨_, captures, compile_optionalKind, hmatch, by decide, ?_, ?_⟩
  · have hshown : shown ctx unit node captures "kind" = "x" := by decide +kernel
    rw [← hshown]
    refine (stands_of_compile compile_optionalKind ctx unit hmatch (by decide)).1 ?_
    rintro ⟨hout, -⟩
    have hfind : captures.find? "kind" = some "x" := by decide +kernel
    cases hfind.symm.trans (Matcher.find?_eq_none_of_groupOutcome hnodup hcaptures hout)
  · have hshown : shown ctx unit node captures "line" = "1" := by decide +kernel
    rw [← hshown]
    refine (stands_of_compile compile_optionalKind ctx unit hmatch (by decide)).1 ?_
    rintro ⟨hout, -⟩
    exact absurd hout.mem_captureNames (by decide +kernel)

/-- In a match in which the group takes no part its name does not stand for nothing, as it should,
but for the kind of the node. -/
theorem not_stands_optionalKind :
    let ctx : RunContext := { lines := .ofSource "p" "" }
    let unit : SourceUnit := { path := "p" }
    let node : Node := ⟨0, "call", {}, "y"⟩
    ∃ rule, optionalKind.compile = .ok rule ∧
      rule.matcher.evaluate ctx unit node = .matched ∅ ∧ "kind" ∈ rule.message.variableNames ∧
      rule.matcher.GroupOutcome node "kind" none ∧
      shown ctx unit node ∅ "kind" = "call" ∧
      ¬ Stands rule.matcher ctx unit node "kind" "call" := by
  intro ctx unit node
  let slots : Array (Option Nat) := #[some 0, some 1, none, none]
  have hout : optionalKindRule.matcher.GroupOutcome node "kind" none :=
    ⟨optionalKindPattern, slots, 1, rfl, search_optionalKind.1, by decide, by decide⟩
  have hcaptures : optionalKindRule.matcher.captures? node = some ∅ :=
    Matcher.captures?_eq_some_iff.2
      (.inr ⟨optionalKindPattern, slots, rfl, search_optionalKind.1, by decide⟩)
  have hmatch : optionalKindRule.matcher.evaluate ctx unit node = .matched ∅ := by
    unfold Matcher.evaluate
    rw [hcaptures]
    decide
  refine ⟨_, compile_optionalKind, hmatch, by decide, hout, by decide, ?_⟩
  rw [stands_iff_of_leftOut (by decide) hout]
  decide

end Rulebook
