import Rulebook.Rule.Loaded

/-!
# Loading

An engine is the list of the rule sets that it has taken in. A file that does not compile leaves no
mark, so after any calls in any order the engine holds the rule sets of those that succeeded, in
the order of the calls (`sets_afterAll`).
-/

namespace Rulebook

/-- A call that hands a file to an engine. -/
structure LoadCall where
  ctx : ParseContext
  file : String
  content : String

/-- The rules that a call brings, if it succeeds. -/
def LoadCall.ruleSet? (c : LoadCall) : Option RuleSet :=
  (RuleFile.compile c.ctx c.file c.content).toOption

theorem LoadCall.ruleSet?_eq_some_iff {c : LoadCall} {set : RuleSet} :
    c.ruleSet? = some set ↔ RuleFile.compile c.ctx c.file c.content = .ok set := by
  unfold ruleSet?
  cases RuleFile.compile c.ctx c.file c.content <;> simp [Except.toOption]

namespace LoadedRules

theorem load_eq (l : LoadedRules) (ctx : ParseContext) (file content : String) :
    l.load ctx file content =
      (RuleFile.compile ctx file content).map fun set => ⟨l.sets ++ [set]⟩ := by
  unfold load
  cases RuleFile.compile ctx file content <;> rfl

/-- The engine after a call. A call that fails leaves it as it was. -/
def after (l : LoadedRules) (c : LoadCall) : LoadedRules :=
  match l.load c.ctx c.file c.content with
  | .ok l' => l'
  | .error _ => l

/-- The engine after calls. -/
def afterAll (l : LoadedRules) (calls : List LoadCall) : LoadedRules := calls.foldl after l

theorem sets_after (l : LoadedRules) (c : LoadCall) :
    (l.after c).sets = l.sets ++ c.ruleSet?.toList := by
  unfold after LoadCall.ruleSet?
  rw [load_eq]
  cases RuleFile.compile c.ctx c.file c.content with
  | error e => exact (List.append_nil l.sets).symm
  | ok set => rfl

/-- **Loading appends.** After any calls an engine holds what it held before, and then the rule sets
of the calls that succeeded. -/
theorem sets_afterAll (l : LoadedRules) (calls : List LoadCall) :
    (l.afterAll calls).sets = l.sets ++ calls.filterMap LoadCall.ruleSet? := by
  induction calls generalizing l with
  | nil => exact (List.append_nil l.sets).symm
  | cons c calls ih =>
    change ((l.after c).afterAll calls).sets = _
    rw [ih, sets_after, List.append_assoc]
    cases h : c.ruleSet? <;> simp [h]

/-- What an engine holds that started out empty are files that compiled. -/
theorem mem_sets_afterAll_iff {calls : List LoadCall} {set : RuleSet} :
    set ∈ (afterAll {} calls).sets ↔
      ∃ c ∈ calls, RuleFile.compile c.ctx c.file c.content = .ok set := by
  rw [sets_afterAll, List.nil_append, List.mem_filterMap]
  simp only [LoadCall.ruleSet?_eq_some_iff]

/-- A run has every rule on its way to every node. -/
theorem mem_visits_iff {l : LoadedRules} {unit : SourceUnit} {v : Visit} :
    v ∈ l.visits unit ↔
      v.node ∈ unit.nodes ∧ ∃ set ∈ l.sets, v.file = set.file ∧ v.rule ∈ set.rules := by
  unfold visits
  simp only [List.mem_flatMap, List.mem_map, Array.mem_toList_iff]
  constructor
  · rintro ⟨node, hnode, set, hset, rule, hrule, rfl⟩
    exact ⟨hnode, set, hset, rfl, hrule⟩
  · rintro ⟨hnode, set, hset, hfile, hrule⟩
    exact ⟨v.node, hnode, set, hset, v.rule, hrule, by rw [← hfile]⟩

end LoadedRules

end Rulebook
