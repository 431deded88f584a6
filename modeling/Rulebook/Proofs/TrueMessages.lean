import Rulebook.Proofs.BoundedRun
import Rulebook.Proofs.Conditions

/-!
# Messages say what the conditions say

A message can tell the package, the kind, the type and the text of a node through builtin
variables, and a rule can have conditions on each of them. The values of the variables are worked
out apart from the conditions.

**Theorem (`message_keepsTo`).** Whatever a run finds, the values of the builtins in the message
keep to the conditions of the rule (`KeepsTo`): a package or a kind that is told is one of those
that the rule names, a type that is told is the one on record and matches the pattern for types, and
a text that is told matches the pattern for texts and does not match the pattern against texts.

A group of the text pattern can take the name of a builtin for itself, and then the message tells
something else under that name. All other builtins have the values of the node that was matched
(`shown_builtin`), and of these the conditions hold (`Matcher.holds_of_evaluate_eq_matched`).
-/

namespace Rulebook

/-- What is put in for the builtins keeps to the conditions, where a node has a certain type on
record, if any. A builtin counts unless a group of the text pattern has its name. -/
structure KeepsTo (m : MatchSource) (type? : Option String) (value : String → String) : Prop where
  package : "package" ∉ m.groupNames → ∀ names, m.packages = some names → value "package" ∈ names
  kind : "kind" ∉ m.groupNames → ∀ names, m.kinds = some names → value "kind" ∈ names
  type : "type" ∉ m.groupNames → value "type" = type?.getD ""
  typePattern : "type" ∉ m.groupNames → ∀ p, m.typePattern = some p →
    type? = some (value "type") ∧ Searches p (value "type") true
  textPattern : "text" ∉ m.groupNames → ∀ p, m.textPattern = some p →
    Searches p (value "text") true
  notTextPattern : "text" ∉ m.groupNames → ∀ p, m.notTextPattern = some p →
    Searches p (value "text") false

section Builtins

variable {m : MatchSource} {k : Matcher} {ctx : RunContext} {unit : SourceUnit} {node : Node}
  {captures : SortedMap String String}

/-- A builtin whose name no group has is put in. -/
theorem shown_builtin (hk : Matcher.compile m = .ok k)
    (hmatch : k.evaluate ctx unit node = .matched captures) {name value : String}
    (hname : name ∉ m.groupNames) (hvalue : (name, value) ∈ Visit.builtinValues ctx unit node) :
    shown ctx unit node captures name = value := by
  rw [← Matcher.captureNames_of_compile_eq_ok hk] at hname
  have hkept := Matcher.captures?_of_evaluate_eq_matched hmatch
  have hfind := Matcher.find?_eq_none_of_not_mem hkept hname
  rw [shown_eq, (Visit.value?_eq_some_iff_of_find?_eq_none ctx unit node hfind).2 hvalue,
    Option.getD_some]

/-- **Values and conditions.** In a match, what is put in for the builtins keeps to the
conditions. -/
theorem keepsTo_of_matched (hk : Matcher.compile m = .ok k)
    (hmatch : k.evaluate ctx unit node = .matched captures) :
    KeepsTo m (ctx.types.find? node.id) (shown ctx unit node captures) := by
  have hholds {c : Condition} (hc : m.Has c) : c.Holds ctx unit node :=
    Matcher.holds_of_evaluate_eq_matched ctx unit node (Matcher.compiles_of_compile_eq_ok hk)
      hmatch hc
  have hshown {name value : String} (hname : name ∉ m.groupNames)
      (hvalue : (name, value) ∈ Visit.builtinValues ctx unit node) :
      shown ctx unit node captures name = value := shown_builtin hk hmatch hname hvalue
  constructor
  case package =>
    intro hname names hnames
    have hpackage : shown ctx unit node captures "package" = ctx.packageName unit :=
      hshown hname (by simp [Visit.builtinValues, RunContext.packageName])
    rw [hpackage]
    exact hholds (c := .packages names) hnames
  case kind =>
    intro hname names hnames
    have hkind : shown ctx unit node captures "kind" = node.kind :=
      hshown hname (by simp [Visit.builtinValues])
    rw [hkind]
    exact hholds (c := .kinds names) hnames
  case type =>
    intro hname
    exact hshown hname (by simp [Visit.builtinValues])
  case typePattern =>
    intro hname p hp
    have htype : shown ctx unit node captures "type" = (ctx.types.find? node.id).getD "" :=
      hshown hname (by simp [Visit.builtinValues])
    obtain ⟨type, hfind, hsearch⟩ := hholds (c := .typePattern p) hp
    rw [Option.mem_def.1 hfind, Option.getD_some] at htype
    rw [htype]
    exact ⟨hfind, hsearch⟩
  case textPattern =>
    intro hname p hp
    have htext : shown ctx unit node captures "text" = node.text :=
      hshown hname (by simp [Visit.builtinValues])
    rw [htext]
    exact hholds (c := .textPattern p) hp
  case notTextPattern =>
    intro hname p hp
    have htext : shown ctx unit node captures "text" = node.text :=
      hshown hname (by simp [Visit.builtinValues])
    rw [htext]
    exact hholds (c := .notTextPattern p) hp

end Builtins

namespace LoadedRules

/-- **Messages do not contradict conditions.** After any calls, a run tells the hits of the unit as
far as there is room for them. Each hit is of a node of the unit and of a rule that is written in a
file handed in, and what the message tells of the node through builtins keeps to the conditions of
that rule. -/
theorem message_keepsTo (calls : List LoadCall) (ctx : RunContext) (unit : SourceUnit) :
    ((afterAll {} calls).run ctx unit).findings =
      ((hits (afterAll {} calls).sets ctx unit).take maxFindings).map (Hit.finding ctx unit) ∧
    ∀ h ∈ hits (afterAll {} calls).sets ctx unit,
      h.node ∈ unit.nodes ∧ ∃ call ∈ calls, ∃ file r,
        Toml.decode RuleFile.ofData call.content = .ok file ∧ r ∈ file.rules ∧
        r.Compiles h.rule ∧
        KeepsTo r.conditions (ctx.types.find? h.node.id) (shown ctx unit h.node h.captures) := by
  refine ⟨run_findings ctx unit _, fun h hh => ?_⟩
  obtain ⟨hnode, ⟨set, hset, hrule⟩, hmatch⟩ := mem_hits_iff.1 hh
  obtain ⟨call, hcall, hcompile⟩ := mem_sets_afterAll_iff.1 hset
  obtain ⟨file, rules, hdecode, -, hrules, rfl⟩ := RuleFile.compile_eq_ok_iff.1 hcompile
  obtain ⟨r, hr, hcompiles⟩ := RuleFile.exists_compiles_of_mem hrules hrule
  exact ⟨hnode, call, hcall, file, r, hdecode, hr, hcompiles,
    keepsTo_of_matched hcompiles.matcher hmatch⟩

/-- The pattern of a letter. -/
def letterPattern (c : Char) : Regex :=
  let expr : Regex.Expr := .set (.single c)
  ⟨String.singleton c, expr, .compile expr⟩

/-- A rule that tells what it looks for, as it is written. -/
def tellingSource : RuleSource where
  name := ⟨"r", ⟨15, 18⟩⟩
  conditions :=
    { kinds := some ["k"], packages := some ["main"], typePattern := some "i"
      textPattern := some "y", notTextPattern := some "x" }
  message := "$package $kind $type $text"

/-- The rule as it is compiled. -/
def tellingRule : Rule where
  name := "r"
  group := "r"
  description := none
  matcher := ⟨some ["k"], some (letterPattern 'y'), some (letterPattern 'x'),
    some (letterPattern 'i'), none, some ["main"]⟩
  message := ⟨[.ref "package", .literal " ", .ref "kind", .literal " ", .ref "type", .literal " ",
    .ref "text"]⟩

/-- The package, the kind, the type and the text that it tells are what it looks for. -/
theorem message_keepsTo_telling :
    let call : LoadCall := ⟨{}, "r.toml", "[[rules]]\nname='r'\nmatch.package='main'\n" ++
      "match.kind='k'\nmatch.type_pattern='i'\nmatch.text_pattern='y'\n" ++
      "match.not_text_pattern='x'\nreport.message='$package $kind $type $text'"⟩
    let ctx : RunContext := { types := .ofList [(0, "int")], lines := .ofSource "p" "" }
    let node : Node := ⟨0, "k", {}, "y"⟩
    let unit : SourceUnit := { path := "p", package := "main", nodes := #[node] }
    ∃ h ∈ hits (afterAll {} [call]).sets ctx unit,
      h.node = node ∧ h.rule = tellingRule ∧
      ((afterAll {} [call]).run ctx unit).findings = [⟨0, {}, "main k int y"⟩] ∧
      let value := shown ctx unit h.node h.captures
      value "package" ∈ ["main"] ∧ value "kind" ∈ ["k"] ∧ value "type" = "int" ∧
        Searches "i" (value "type") true ∧ Searches "y" (value "text") true ∧
        Searches "x" (value "text") false := by
  intro call ctx node unit
  let hit : Hit := ⟨node, tellingRule, ∅⟩
  have hsets : (afterAll {} [call]).sets = [⟨"r.toml", none, [tellingRule]⟩] := by decide +kernel
  have hmatch : tellingRule.matcher.evaluate ctx unit node = .matched ∅ := by cbv
  have hhits : hits (afterAll {} [call]).sets ctx unit = [hit] := by
    simp [hsets, hits, hit?, unit, hmatch, hit]
  have hhit : hit ∈ hits (afterAll {} [call]).sets ctx unit := hhits ▸ List.mem_singleton_self _
  obtain ⟨hfindings, hall⟩ := message_keepsTo [call] ctx unit
  obtain ⟨-, call', hcall', file, r, hfile, hr, -, hkeeps⟩ := hall hit hhit
  cases List.mem_singleton.1 hcall'
  have hdecode : Toml.decode RuleFile.ofData call.content = .ok { rules := [tellingSource] } := by
    decide +kernel
  cases hdecode.symm.trans hfile
  cases List.mem_singleton.1 hr
  have hgroup (name : String) : name ∉ tellingSource.conditions.groupNames := by
    have hnil : tellingSource.conditions.groupNames = [] := by decide +kernel
    exact hnil ▸ List.not_mem_nil
  have hrun : ((afterAll {} [call]).run ctx unit).findings = [⟨0, {}, "main k int y"⟩] := by
    rw [hfindings, hhits]
    decide +kernel
  exact ⟨hit, hhit, rfl, rfl, hrun, hkeeps.package (hgroup _) _ rfl, hkeeps.kind (hgroup _) _ rfl,
    hkeeps.type (hgroup _), (hkeeps.typePattern (hgroup _) _ rfl).2,
    hkeeps.textPattern (hgroup _) _ rfl, hkeeps.notTextPattern (hgroup _) _ rfl⟩

end LoadedRules

end Rulebook
