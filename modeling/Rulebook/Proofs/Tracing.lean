import Rulebook.Proofs.BoundedRun

/-!
# What a trace says

With a group to trace, a run accounts for every pair of a node and a rule of that group that it
comes by, unless the rule does not look at nodes of that kind.

**Theorem (`trace_afterAll`).** The findings and the error of a run are the same whichever group is
traced, if any. The trace has one line for each such pair, in the order of visiting: that the node
was matched, or else the first condition that it failed. The pairs that a run comes by are all, or,
where there are more hits than the bound, those up to the hit that exceeds it.

A line is decided by the pair alone (`trace?_verdict`). What the loop adds is where it stops, and
that depends on which pairs are hits (`reached`), not on what is traced. So the proof carries the
room that is left, as for findings, and reads the trace off the pairs that are reached
(`trace_visitAll`).
-/

namespace Rulebook

/-! ## The account of one pair -/

/-- The conditions that can reject a node, in the order in which they are checked. -/
def Clause.inOrder : List Clause :=
  [.package, .pathPattern, .textPattern, .notTextPattern, .typePattern]

section Conditions

variable (m : Matcher) (ctx : RunContext) (unit : SourceUnit) (node : Node)

/-- A rule looks at nodes of the kinds that it names, or at all nodes if it names none. -/
def Matcher.LooksAt : Prop := ∀ kinds ∈ m.kinds, node.kind ∈ kinds

instance : Decidable (m.LooksAt node) :=
  inferInstanceAs (Decidable (∀ kinds ∈ m.kinds, node.kind ∈ kinds))

/-- A condition holds of a node. One that a rule does not set holds of every node. -/
def Clause.Holds : Clause → Prop
  | package => ∀ names ∈ m.packages, ctx.packageName unit ∈ names
  | pathPattern => ∀ r ∈ m.path, r.isMatch unit.path = true
  | textPattern => ∀ r ∈ m.text, r.isMatch node.text = true
  | notTextPattern => ∀ r ∈ m.notText, r.isMatch node.text = false
  | typePattern => ∀ r ∈ m.type, ∃ type ∈ ctx.types.find? node.id, r.isMatch type = true

instance : (c : Clause) → Decidable (c.Holds m ctx unit node)
  | .package => inferInstanceAs (Decidable (∀ names ∈ m.packages, ctx.packageName unit ∈ names))
  | .pathPattern => inferInstanceAs (Decidable (∀ r ∈ m.path, r.isMatch unit.path = true))
  | .textPattern => inferInstanceAs (Decidable (∀ r ∈ m.text, r.isMatch node.text = true))
  | .notTextPattern => inferInstanceAs (Decidable (∀ r ∈ m.notText, r.isMatch node.text = false))
  | .typePattern => inferInstanceAs
    (Decidable (∀ r ∈ m.type, ∃ type ∈ ctx.types.find? node.id, r.isMatch type = true))

theorem acceptsKind_iff : m.acceptsKind node = true ↔ m.LooksAt node := by
  unfold Matcher.acceptsKind Matcher.LooksAt
  cases m.kinds <;> simp

theorem acceptsPackage_iff :
    m.acceptsPackage ctx unit = true ↔ Clause.package.Holds m ctx unit node := by
  unfold Matcher.acceptsPackage Clause.Holds
  cases m.packages <;> simp

theorem acceptsPath_iff : m.acceptsPath unit = true ↔ Clause.pathPattern.Holds m ctx unit node := by
  unfold Matcher.acceptsPath Clause.Holds
  cases m.path <;> simp

theorem isSome_captures?_iff :
    (m.captures? node).isSome = true ↔ Clause.textPattern.Holds m ctx unit node := by
  unfold Matcher.captures? Clause.Holds
  cases m.text <;> simp [Regex.captures, Regex.isMatch]

theorem acceptsNotText_iff :
    m.acceptsNotText node = true ↔ Clause.notTextPattern.Holds m ctx unit node := by
  unfold Matcher.acceptsNotText Clause.Holds
  cases m.notText <;> simp

theorem acceptsType_iff :
    m.acceptsType ctx node = true ↔ Clause.typePattern.Holds m ctx unit node := by
  unfold Matcher.acceptsType Clause.Holds
  cases m.type with
  | none => simp
  | some r => cases ctx.types.find? node.id <;> simp

/-- The first condition that a node fails. -/
def Matcher.failed? : Option Clause :=
  Clause.inOrder.find? fun c => !decide (c.Holds m ctx unit node)

/-- **The verdict on a node.** The first condition that fails rejects it, if the rule looks at the
node at all. -/
theorem evaluate_eq : m.evaluate ctx unit node =
    if m.LooksAt node then
      match m.failed? ctx unit node with
      | some c => .rejected c
      | none => .matched ((m.captures? node).getD ∅)
    else .skipped := by
  simp only [Matcher.evaluate, Matcher.failed?, Clause.inOrder, List.find?_cons, List.find?_nil,
    ← acceptsKind_iff m node, ← acceptsPackage_iff m ctx unit node,
    ← acceptsPath_iff m ctx unit node, ← isSome_captures?_iff m ctx unit node,
    ← acceptsNotText_iff m ctx unit node, ← acceptsType_iff m ctx unit node, Bool.decide_eq_true]
  cases m.acceptsKind node
  · rfl
  cases m.acceptsPackage ctx unit
  · rfl
  cases m.acceptsPath unit
  · rfl
  cases m.captures? node with
  | none => rfl
  | some captures =>
    cases m.acceptsNotText node
    · rfl
    · cases m.acceptsType ctx node <;> rfl

end Conditions

namespace Visit

/-- The line that accounts for a node which a rule looks at. -/
def account (ctx : RunContext) (unit : SourceUnit) (v : Visit) : String :=
  match v.rule.matcher.failed? ctx unit v.node with
  | none => s!"{v.file}: {v.rule.name}: matched node #{v.node.id}"
  | some c => s!"{v.file}: {v.rule.name}: rejected node #{v.node.id}: {c.name}"

/-- A pair is a hit when the rule looks at the node and all its conditions hold. -/
def IsHit (ctx : RunContext) (unit : SourceUnit) (v : Visit) : Prop :=
  v.rule.matcher.LooksAt v.node ∧ ∀ c ∈ Clause.inOrder, c.Holds v.rule.matcher ctx unit v.node

instance (ctx : RunContext) (unit : SourceUnit) : DecidablePred (IsHit ctx unit) := fun v =>
  inferInstanceAs (Decidable (v.rule.matcher.LooksAt v.node ∧
    ∀ c ∈ Clause.inOrder, c.Holds v.rule.matcher ctx unit v.node))

/-- A pair that a trace accounts for: the rule is of the group, and it looks at the node. -/
def Accounted (group : String) (v : Visit) : Prop :=
  v.rule.group = group ∧ v.rule.matcher.LooksAt v.node

instance (group : String) : DecidablePred (Accounted group) := fun v =>
  inferInstanceAs (Decidable (v.rule.group = group ∧ v.rule.matcher.LooksAt v.node))

variable (ctx : RunContext) (unit : SourceUnit)

theorem isSome_hit?_iff (v : Visit) :
    (hit? ctx unit v.node v.rule).isSome = true ↔ v.IsHit ctx unit := by
  unfold hit? IsHit
  rw [evaluate_eq]
  by_cases hlooks : v.rule.matcher.LooksAt v.node
  · simp only [hlooks, if_true, true_and]
    cases hfailed : v.rule.matcher.failed? ctx unit v.node with
    | none => simpa [Matcher.failed?] using hfailed
    | some c =>
      have hc : ¬ c.Holds v.rule.matcher ctx unit v.node := by simpa using List.find?_some hfailed
      exact iff_of_false Bool.false_ne_true fun h => hc (h c (List.mem_of_find?_eq_some hfailed))
  · simp [hlooks]

/-- **The line of a pair.** -/
theorem trace?_verdict (v : Visit) (group : String) :
    v.trace? { ctx with debug := some group } (v.verdict { ctx with debug := some group } unit) =
      if v.Accounted group then some (v.account ctx unit) else none := by
  change v.trace? _ (v.rule.matcher.evaluate ctx unit v.node) = _
  rw [evaluate_eq]
  by_cases hgroup : v.rule.group = group
  · by_cases hlooks : v.rule.matcher.LooksAt v.node
    · rw [if_pos hlooks, if_pos ⟨hgroup, hlooks⟩]
      cases hfailed : v.rule.matcher.failed? ctx unit v.node <;>
        simp only [trace?, account, RunContext.traces, hgroup, hfailed, Node.label, toString,
          decide_true, if_true, String.append_assoc] <;> rfl
    · simp [trace?, RunContext.traces, Accounted, hlooks]
  · simp [trace?, RunContext.traces, Accounted, Ne.symm hgroup, hgroup]

end Visit

/-! ## The pairs that a run comes by -/

/-- The pairs of a list up to the first hit that finds no room. -/
def reached (ctx : RunContext) (unit : SourceUnit) : Nat → List Visit → List Visit
  | _, [] => []
  | room, v :: vs =>
    if v.IsHit ctx unit then
      match room with
      | 0 => [v]
      | room + 1 => v :: reached ctx unit room vs
    else v :: reached ctx unit room vs

/-- What a run comes by of all pairs: all of them, or, where there are more hits than the bound,
those up to the hit that exceeds it. -/
structure ComesBy (ctx : RunContext) (unit : SourceUnit) (bound : Nat) (all seen : List Visit) :
    Prop where
  initial : seen <+: all
  eq_of_le : all.countP (·.IsHit ctx unit) ≤ bound → seen = all
  stops_of_lt : bound < all.countP (·.IsHit ctx unit) → ∃ before v, seen = before ++ [v] ∧
    v.IsHit ctx unit ∧ before.countP (·.IsHit ctx unit) = bound

section Loop

variable (ctx : RunContext) (unit : SourceUnit)

theorem ComesBy.cons {bound bound' : Nat} {all seen : List Visit} {v : Visit}
    (h : ComesBy ctx unit bound all seen)
    (hbound : bound' = bound + if v.IsHit ctx unit then 1 else 0) :
    ComesBy ctx unit bound' (v :: all) (v :: seen) := by
  have hcount (vs : List Visit) : (v :: vs).countP (·.IsHit ctx unit) =
      vs.countP (·.IsHit ctx unit) + if v.IsHit ctx unit then 1 else 0 := by
    simp [List.countP_cons]
  constructor
  case initial => exact List.cons_prefix_cons.2 ⟨rfl, h.initial⟩
  case eq_of_le =>
    intro hle
    rw [hcount, hbound] at hle
    rw [h.eq_of_le (Nat.le_of_add_le_add_right hle)]
  case stops_of_lt =>
    intro hlt
    rw [hcount, hbound] at hlt
    obtain ⟨before, last, rfl, hlast, hbefore⟩ := h.stops_of_lt (Nat.lt_of_add_lt_add_right hlt)
    exact ⟨v :: before, last, rfl, hlast, by rw [hcount, hbefore, hbound]⟩

theorem comesBy_reached (room : Nat) (vs : List Visit) :
    ComesBy ctx unit room vs (reached ctx unit room vs) := by
  induction vs generalizing room with
  | nil => exact ⟨List.prefix_refl [], fun _ => rfl, fun h => absurd h (Nat.not_lt_zero room)⟩
  | cons v vs ih =>
    unfold reached
    by_cases hv : v.IsHit ctx unit
    · rw [if_pos hv]
      cases room with
      | zero =>
        refine ⟨⟨vs, rfl⟩, fun hle => ?_, fun _ => ⟨[], v, rfl, hv, rfl⟩⟩
        simp [hv] at hle
      | succ room => exact (ih room).cons ctx unit (by rw [if_pos hv])
    · rw [if_neg hv]
      exact (ih room).cons ctx unit (by rw [if_neg hv, Nat.add_zero])

/-- **The loop.** With some room left, the visits ahead add the lines of those that are reached. -/
theorem trace_visitAll (room : Nat) (found : List Finding) (trace : List String)
    (vs : List Visit) :
    (LoadedRules.visitAll ctx unit room found trace vs).trace = trace.reverse ++
      (reached ctx unit room vs).filterMap fun v => v.trace? ctx (v.verdict ctx unit) := by
  induction vs generalizing room found trace with
  | nil => simp [LoadedRules.visitAll, reached]
  | cons v vs ih =>
    have hhit := v.isSome_hit?_iff ctx unit
    have hline (rest : List Visit) : trace.reverse ++
        (v :: rest).filterMap (fun v => v.trace? ctx (v.verdict ctx unit)) =
          ((v.trace? ctx (v.verdict ctx unit)).toList ++ trace).reverse ++
            rest.filterMap fun v => v.trace? ctx (v.verdict ctx unit) := by
      cases h : v.trace? ctx (v.verdict ctx unit) <;> simp [h]
    simp only [LoadedRules.visitAll, LoadedRules.finding?_eq, reached]
    cases hv : hit? ctx unit v.node v.rule with
    | none =>
      rw [hv] at hhit
      rw [if_neg (by simp [← hhit]), hline]
      exact ih room found _
    | some h =>
      rw [hv] at hhit
      rw [if_pos (hhit.1 rfl)]
      cases room with
      | zero => exact (List.append_nil _).symm.trans (hline []).symm
      | succ room => exact (ih room _ _).trans (hline _).symm

end Loop

namespace LoadedRules

variable (ctx : RunContext) (unit : SourceUnit)

theorem reached_debug (debug : Option String) (room : Nat) (vs : List Visit) :
    reached { ctx with debug := debug } unit room vs = reached ctx unit room vs := by
  induction vs generalizing room with
  | nil => rfl
  | cons v vs ih =>
    have hv : v.IsHit { ctx with debug := debug } unit ↔ v.IsHit ctx unit := Iff.rfl
    simp only [reached, hv, ih]

/-- Tracing has no say in what is found. -/
theorem run_debug (l : LoadedRules) (debug : Option String) :
    (l.run { ctx with debug := debug } unit).findings = (l.run ctx unit).findings ∧
      (l.run { ctx with debug := debug } unit).error = (l.run ctx unit).error := by
  rw [run_findings, run_findings, run_error, run_error]
  exact ⟨rfl, rfl⟩

theorem run_trace (l : LoadedRules) (group : String) :
    (l.run { ctx with debug := some group } unit).trace =
      ((reached ctx unit maxFindings (l.visits unit)).filter (·.Accounted group)).map
        (Visit.account ctx unit) := by
  unfold run
  rw [trace_visitAll, reached_debug]
  simp only [Visit.trace?_verdict]
  rw [← List.filterMap_eq_map, List.filterMap_filter]
  simp only [decide_eq_true_eq]
  rfl

end LoadedRules

end Rulebook
