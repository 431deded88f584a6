import Rulebook.Proofs.Loading

/-!
# Runs and their bound

A hit is a node with a rule that matches it. The hits of a unit are listed node by node, then file
by file, then rule by rule, without any regard to a bound (`hits`). A run is that list cut off
(`run_findings`, `run_error`): up to the bound it tells every hit; beyond, it tells as many as the
bound allows and names the first hit that it leaves out (`run_afterAll`).

The loop visits pairs one after the other and stops at the hit that finds no room. The proof carries
the room that is left: what is found from some visit on is the list of the hits from there on, cut
off at that room.
-/

namespace Rulebook

/-- A node with a rule that matches it, and what the rule captured. -/
structure Hit where
  node : Node
  rule : Rule
  captures : SortedMap String String

namespace Hit

/-- The finding of a hit: the place of the node, and the message of the rule for it. -/
def finding (ctx : RunContext) (unit : SourceUnit) (h : Hit) : Finding where
  node := h.node.id
  span := h.node.span
  message := h.rule.message.render (Visit.value? ctx unit h.node h.captures)

/-- The text of the error that a hit without room is. -/
def excess (unit : SourceUnit) (h : Hit) : String :=
  s!"{unit.path}: more than {maxFindings} findings at rule '{h.rule.name}' on node #{h.node.id}"

end Hit

/-- The hit of a rule on a node, if the rule matches it. -/
def hit? (ctx : RunContext) (unit : SourceUnit) (node : Node) (rule : Rule) : Option Hit :=
  match rule.matcher.evaluate ctx unit node with
  | .matched captures => some ⟨node, rule, captures⟩
  | _ => none

/-- All hits in a unit: for each node in the order of the unit, for each file in the order of
loading, for each rule in the order of the file. -/
def hits (sets : List RuleSet) (ctx : RunContext) (unit : SourceUnit) : List Hit :=
  unit.nodes.toList.flatMap fun node =>
    sets.flatMap fun set => set.rules.filterMap (hit? ctx unit node)

theorem mem_hits_iff {sets : List RuleSet} {ctx : RunContext} {unit : SourceUnit} {h : Hit} :
    h ∈ hits sets ctx unit ↔ h.node ∈ unit.nodes ∧ (∃ set ∈ sets, h.rule ∈ set.rules) ∧
      h.rule.matcher.evaluate ctx unit h.node = .matched h.captures := by
  have hhit (node : Node) (rule : Rule) : hit? ctx unit node rule = some h ↔
      h.node = node ∧ h.rule = rule ∧
        rule.matcher.evaluate ctx unit node = .matched h.captures := by
    unfold hit?
    cases rule.matcher.evaluate ctx unit node <;> cases h <;> simp [eq_comm]
  unfold hits
  simp only [List.mem_flatMap, List.mem_filterMap, Array.mem_toList_iff, hhit]
  constructor
  · rintro ⟨node, hnode, set, hset, rule, hrule, rfl, rfl, hmatch⟩
    exact ⟨hnode, ⟨set, hset, hrule⟩, hmatch⟩
  · rintro ⟨hnode, ⟨set, hset, hrule⟩, hmatch⟩
    exact ⟨h.node, hnode, set, hset, h.rule, hrule, rfl, rfl, hmatch⟩

namespace LoadedRules

variable (ctx : RunContext) (unit : SourceUnit)

theorem filterMap_visits (l : LoadedRules) :
    (l.visits unit).filterMap (fun v => hit? ctx unit v.node v.rule) = hits l.sets ctx unit := by
  simp only [visits, hits, List.filterMap_flatMap, List.filterMap_map, Function.comp_def]

theorem finding?_eq (v : Visit) :
    v.finding? ctx unit (v.verdict ctx unit) =
      (hit? ctx unit v.node v.rule).map (Hit.finding ctx unit) := by
  unfold Visit.finding? Visit.verdict hit?
  cases v.rule.matcher.evaluate ctx unit v.node <;> rfl

theorem excess_of_hit? {v : Visit} {h : Hit} (hv : hit? ctx unit v.node v.rule = some h) :
    v.excess unit = h.excess unit := by
  unfold hit? at hv
  split at hv
  · cases hv
    simp only [Visit.excess, Node.label, Hit.excess, toString, String.append_assoc]
    rfl
  · cases hv

/-- **The loop.** With some room left, the visits ahead yield their hits as far as there is room,
and an error if one hit finds none. -/
theorem visitAll_eq (room : Nat) (found : List Finding) (trace : List String) (vs : List Visit) :
    let ahead := vs.filterMap fun v => hit? ctx unit v.node v.rule
    let out := visitAll ctx unit room found trace vs
    out.findings = found.reverse ++ (ahead.take room).map (Hit.finding ctx unit) ∧
      out.error = ahead[room]?.map (Hit.excess unit) := by
  induction vs generalizing room found trace with
  | nil => simp [visitAll]
  | cons v vs ih =>
    simp only [visitAll, finding?_eq]
    cases hv : hit? ctx unit v.node v.rule with
    | none =>
      simp only [Option.map_none, List.filterMap_cons, hv]
      exact ih _ _ _
    | some h =>
      simp only [Option.map_some, List.filterMap_cons, hv]
      cases room with
      | zero => simp [excess_of_hit? ctx unit hv]
      | succ room =>
        obtain ⟨hfindings, herror⟩ := ih room (h.finding ctx unit :: found)
          ((v.trace? ctx (v.verdict ctx unit)).toList ++ trace)
        refine ⟨?_, herror⟩
        rw [hfindings, List.reverse_cons, List.append_assoc, List.take_succ_cons, List.map_cons]
        rfl

theorem run_findings (l : LoadedRules) :
    (l.run ctx unit).findings =
      ((hits l.sets ctx unit).take maxFindings).map (Hit.finding ctx unit) := by
  have h := (visitAll_eq ctx unit maxFindings [] [] (l.visits unit)).1
  rw [filterMap_visits] at h
  simpa [run] using h

theorem run_error (l : LoadedRules) :
    (l.run ctx unit).error = (hits l.sets ctx unit)[maxFindings]?.map (Hit.excess unit) := by
  have h := (visitAll_eq ctx unit maxFindings [] [] (l.visits unit)).2
  rw [filterMap_visits] at h
  exact h

theorem run_error_eq_none_iff (l : LoadedRules) :
    (l.run ctx unit).error = none ↔ (hits l.sets ctx unit).length ≤ maxFindings := by
  rw [run_error, Option.map_eq_none_iff, List.getElem?_eq_none_iff]

/-- **A run is a list cut off.** After any calls, a run over a unit with no more hits than the bound
tells all of them and no error. Over any other unit it tells as many as the bound allows, and the
error names the unit with the rule and the node of the first hit that is left out. -/
theorem run_afterAll (calls : List LoadCall) :
    let all := hits (calls.filterMap LoadCall.ruleSet?) ctx unit
    let out := (afterAll {} calls).run ctx unit
    (all.length ≤ maxFindings →
      out.findings = all.map (Hit.finding ctx unit) ∧ out.error = none) ∧
    ∀ h : maxFindings < all.length,
      out.findings = (all.take maxFindings).map (Hit.finding ctx unit) ∧
      out.error = some (all[maxFindings].excess unit) := by
  have hsets : (afterAll {} calls).sets = calls.filterMap LoadCall.ruleSet? := by
    rw [sets_afterAll, List.nil_append]
  intro all out
  have hfindings : out.findings = (all.take maxFindings).map (Hit.finding ctx unit) := by
    rw [run_findings, hsets]
  have herror : out.error = all[maxFindings]?.map (Hit.excess unit) := by
    rw [run_error, hsets]
  refine ⟨fun hle => ⟨?_, ?_⟩, fun hlt => ⟨hfindings, ?_⟩⟩
  · rw [hfindings, List.take_of_length_le hle]
  · rw [herror, List.getElem?_eq_none hle, Option.map_none]
  · rw [herror, List.getElem?_eq_getElem hlt, Option.map_some]

end LoadedRules

end Rulebook
