import Rulebook.Proofs.Tracing
import Rulebook.Proofs.WellFormedRules

/-!
# Conditions on their own

Each of the conditions of a rule makes a matcher by itself, and what a rule comes to on a node is
settled by what its conditions come to one by one.

**Theorem (`evaluate_by_conditions`).** A node is matched when every condition alone matches it.
Otherwise it is skipped if its kind is not among the kinds that are given, and else rejected in the
name of the first condition that alone rejects it. A further condition never makes a node match, and
only a text pattern has a say in what is captured. Lists of kinds and packages count as sets.

A check of a matcher is the one of the kind or the one of a clause, and a verdict says no more than
which checks are met (`evaluate_eq_skipped_iff`, `evaluate_eq_rejected_iff`,
`evaluate_eq_matched_iff`). The link to what is written is `meets_iff`: a check is met when the
condition that belongs to it, if there is one, holds.
-/

namespace Rulebook

/-! ## Conditions as they are written -/

/-- A condition as it is written. -/
inductive Condition where
  | kinds (names : List String)
  | packages (names : List String)
  | pathPattern (pattern : String)
  | textPattern (pattern : String)
  | notTextPattern (pattern : String)
  | typePattern (pattern : String)

namespace Condition

/-- The clause that a condition belongs to. The condition on kinds belongs to none: where it fails
the node is skipped. -/
def clause? : Condition → Option Clause
  | kinds _ => none
  | packages _ => some .package
  | pathPattern _ => some .pathPattern
  | textPattern _ => some .textPattern
  | notTextPattern _ => some .notTextPattern
  | typePattern _ => some .typePattern

theorem forall_iff {P : Condition → Prop} : (∀ c, P c) ↔
    (∀ kinds, P (.kinds kinds)) ∧ (∀ names, P (.packages names)) ∧ (∀ p, P (.pathPattern p)) ∧
      (∀ p, P (.textPattern p)) ∧ (∀ p, P (.notTextPattern p)) ∧ ∀ p, P (.typePattern p) := by
  constructor
  · intro h
    exact ⟨fun _ => h _, fun _ => h _, fun _ => h _, fun _ => h _, fun _ => h _, fun _ => h _⟩
  · intro hall c
    obtain ⟨hkinds, hpackages, hpath, htext, hnotText, htype⟩ := hall
    cases c with
    | kinds kinds => exact hkinds kinds
    | packages names => exact hpackages names
    | pathPattern p => exact hpath p
    | textPattern p => exact htext p
    | notTextPattern p => exact hnotText p
    | typePattern p => exact htype p

end Condition

namespace MatchSource

/-- A condition is among those that are given. -/
def Has (m : MatchSource) : Condition → Prop
  | .kinds kinds => m.kinds = some kinds
  | .packages names => m.packages = some names
  | .pathPattern p => m.pathPattern = some p
  | .textPattern p => m.textPattern = some p
  | .notTextPattern p => m.notTextPattern = some p
  | .typePattern p => m.typePattern = some p

/-- Conditions with one more, which takes the place of another that belongs to the same clause. -/
def add (m : MatchSource) : Condition → MatchSource
  | .kinds kinds => { m with kinds := some kinds }
  | .packages names => { m with packages := some names }
  | .pathPattern p => { m with pathPattern := some p }
  | .textPattern p => { m with textPattern := some p }
  | .notTextPattern p => { m with notTextPattern := some p }
  | .typePattern p => { m with typePattern := some p }

/-- No condition is given that belongs to the same clause. -/
def Lacks (m : MatchSource) (c : Condition) : Prop := ∀ c', m.Has c' → c'.clause? ≠ c.clause?

theorem not_has_empty (c : Condition) : ¬ ({} : MatchSource).Has c := by
  intro h
  cases c <;> cases h

theorem has_add_iff {m : MatchSource} {c c' : Condition} :
    (m.add c).Has c' ↔ c' = c ∨ c'.clause? ≠ c.clause? ∧ m.Has c' := by
  cases c <;> cases c' <;> simp [add, Has, Condition.clause?, eq_comm]

theorem has_add_of_lacks {m : MatchSource} {c c' : Condition} (h : m.Lacks c) :
    (m.add c).Has c' ↔ c' = c ∨ m.Has c' := by
  rw [has_add_iff]
  exact or_congr_right (and_iff_right_of_imp (h c'))

theorem textPattern_add {m : MatchSource} {c : Condition} (h : c.clause? ≠ some .textPattern) :
    (m.add c).textPattern = m.textPattern := by
  cases c <;> first | rfl | exact absurd rfl h

end MatchSource

namespace Condition

/-- The conditions of which this is the only one. -/
def alone (c : Condition) : MatchSource := ({} : MatchSource).add c

theorem has_alone_iff {c c' : Condition} : c.alone.Has c' ↔ c' = c := by
  rw [alone, MatchSource.has_add_of_lacks fun c' hc' => absurd hc' (MatchSource.not_has_empty c')]
  simp [MatchSource.not_has_empty]

theorem alone_ne_empty (c : Condition) : c.alone ≠ {} := by
  intro h
  have hself : c.alone.Has c := has_alone_iff.2 rfl
  rw [h] at hself
  exact MatchSource.not_has_empty c hself

/-- A pattern of a condition alone is one of those that it is given with. -/
theorem mem_patterns_of_alone {m : MatchSource} {c : Condition} (hc : m.Has c) {p : String}
    (hp : p ∈ c.alone.patterns) : p ∈ m.patterns := by
  cases c <;> simp_all [alone, MatchSource.add, MatchSource.patterns, MatchSource.Has]

end Condition

/-- A pattern compiles, and it is found in a text or it is not. -/
def Searches (pattern text : String) (found : Bool) : Prop :=
  ∃ r, compilePattern pattern = .ok r ∧ r.isMatch text = found

/-- A condition holds of a node. -/
def Condition.Holds (ctx : RunContext) (unit : SourceUnit) (node : Node) : Condition → Prop
  | .kinds names => node.kind ∈ names
  | .packages names => ctx.packageName unit ∈ names
  | .pathPattern p => Searches p unit.path true
  | .textPattern p => Searches p node.text true
  | .notTextPattern p => Searches p node.text false
  | .typePattern p => ∃ type ∈ ctx.types.find? node.id, Searches p type true

/-! ## Compiled conditions -/

namespace Matcher

theorem ClauseCompiles.unique {pattern : Option String} {r r' : Option Regex}
    (h : ClauseCompiles pattern r) (h' : ClauseCompiles pattern r') : r = r' := by
  cases h with
  | absent =>
    cases h'
    rfl
  | given hr =>
    cases h' with
    | given hr' =>
      cases hr.symm.trans hr'
      rfl

/-- What is to be so of a pattern if it is given. -/
theorem ClauseCompiles.forall_iff {pattern : Option String} {r : Option Regex}
    (h : ClauseCompiles pattern r) {P : Regex → Prop} :
    (∀ r' ∈ r, P r') ↔ ∀ p, pattern = some p → ∃ r', compilePattern p = .ok r' ∧ P r' := by
  cases h with
  | absent => simp
  | given hr => simp [hr]

theorem compile_eq_ok_of_patterns {m : MatchSource} (hne : m ≠ {})
    (h : ∀ p ∈ m.patterns, ¬ RefusedPattern p) : ∃ k, compile m = .ok k := by
  cases hk : compile m with
  | ok k => exact ⟨k, rfl⟩
  | error fault =>
    rcases compile_eq_error_iff.1 ⟨fault, hk⟩ with hempty | ⟨p, hp, href⟩
    · exact absurd hempty hne
    · exact absurd href (h p hp)

theorem not_refused_of_compile_eq_ok {m : MatchSource} {k : Matcher} (h : compile m = .ok k) :
    ∀ p ∈ m.patterns, ¬ RefusedPattern p := by
  intro p hp href
  obtain ⟨fault, hfault⟩ := compile_eq_error_iff.2 (.inr ⟨p, hp, href⟩)
  cases h.symm.trans hfault

/-- The conditions of a matcher compile one by one. -/
theorem exists_compile_alone {m : MatchSource} {k : Matcher} (h : compile m = .ok k)
    {c : Condition} (hc : m.Has c) : ∃ k', compile c.alone = .ok k' :=
  compile_eq_ok_of_patterns c.alone_ne_empty fun p hp =>
    not_refused_of_compile_eq_ok h p (Condition.mem_patterns_of_alone hc hp)

section Checks

variable (ctx : RunContext) (unit : SourceUnit) (node : Node)

/-- A check is met: that of the kind, or that of a clause. -/
def Meets (k : Matcher) : Option Clause → Prop
  | none => k.LooksAt node
  | some clause => clause.Holds k ctx unit node

variable {m : MatchSource} {k : Matcher}

/-- **Checks and conditions.** A check is met when the condition that belongs to it holds, if one is
given. -/
theorem meets_iff (hk : Compiles m k) {check : Option Clause} :
    k.Meets ctx unit node check ↔
      ∀ c, m.Has c → c.clause? = check → c.Holds ctx unit node := by
  rw [Condition.forall_iff]
  cases check with
  | none => simp [Meets, LooksAt, hk.kinds, MatchSource.Has, Condition.clause?, Condition.Holds]
  | some clause =>
    cases clause with
    | package =>
      simp [Meets, Clause.Holds, hk.packages, MatchSource.Has, Condition.clause?, Condition.Holds]
    | pathPattern =>
      rw [Meets, Clause.Holds, hk.path.forall_iff]
      simp [MatchSource.Has, Condition.clause?, Condition.Holds, Searches]
    | textPattern =>
      rw [Meets, Clause.Holds, hk.text.forall_iff]
      simp [MatchSource.Has, Condition.clause?, Condition.Holds, Searches]
    | notTextPattern =>
      rw [Meets, Clause.Holds, hk.notText.forall_iff]
      simp [MatchSource.Has, Condition.clause?, Condition.Holds, Searches]
    | typePattern =>
      have hswap (p : String) :
          (∃ r, compilePattern p = .ok r ∧
            ∃ type ∈ ctx.types.find? node.id, r.isMatch type = true) ↔
            ∃ type ∈ ctx.types.find? node.id, Searches p type true := by
        constructor
        · intro h
          obtain ⟨r, hr, type, htype, hmatch⟩ := h
          exact ⟨type, htype, r, hr, hmatch⟩
        · intro h
          obtain ⟨type, htype, r, hr, hmatch⟩ := h
          exact ⟨r, hr, type, htype, hmatch⟩
      rw [Meets, Clause.Holds, hk.type.forall_iff]
      simp only [hswap]
      simp [MatchSource.Has, Condition.clause?, Condition.Holds]

/-! ## Verdicts and checks -/

theorem mem_inOrder (clause : Clause) : clause ∈ Clause.inOrder := by
  cases clause <;> decide

theorem failed?_eq_none_iff :
    k.failed? ctx unit node = none ↔ ∀ clause, k.Meets ctx unit node (some clause) := by
  simp [failed?, Meets, mem_inOrder]

/-- The first clause whose check is not met. -/
theorem failed?_eq_some_iff {clause : Clause} :
    k.failed? ctx unit node = some clause ↔ ∃ before after,
      Clause.inOrder = before ++ clause :: after ∧ ¬ k.Meets ctx unit node (some clause) ∧
        ∀ b ∈ before, k.Meets ctx unit node (some b) := by
  have hfind : k.failed? ctx unit node = some clause ↔
      ¬ k.Meets ctx unit node (some clause) ∧ ∃ before after,
        Clause.inOrder = before ++ clause :: after ∧
          ∀ b ∈ before, k.Meets ctx unit node (some b) := by
    simp [failed?, List.find?_eq_some_iff_append, Meets]
  rw [hfind]
  constructor
  · intro h
    obtain ⟨hclause, before, after, hsplit, hbefore⟩ := h
    exact ⟨before, after, hsplit, hclause, hbefore⟩
  · intro h
    obtain ⟨before, after, hsplit, hclause, hbefore⟩ := h
    exact ⟨hclause, before, after, hsplit, hbefore⟩

theorem evaluate_eq_skipped_iff :
    k.evaluate ctx unit node = .skipped ↔ ¬ k.Meets ctx unit node none := by
  rw [evaluate_eq, Meets]
  split
  · next h =>
    split <;> simp [h]
  · next h => simp [h]

theorem evaluate_eq_rejected_iff {clause : Clause} :
    k.evaluate ctx unit node = .rejected clause ↔
      k.Meets ctx unit node none ∧ k.failed? ctx unit node = some clause := by
  rw [evaluate_eq, Meets]
  split
  · next h =>
    split <;> simp_all
  · next h => simp [h]

theorem evaluate_eq_matched_iff {captures : SortedMap String String} :
    k.evaluate ctx unit node = .matched captures ↔
      (∀ check, k.Meets ctx unit node check) ∧ k.captures? node = some captures := by
  have hchecks : (∀ check, k.Meets ctx unit node check) ↔
      k.LooksAt node ∧ k.failed? ctx unit node = none := by
    rw [Option.forall, ← failed?_eq_none_iff]
    rfl
  rw [hchecks, evaluate_eq]
  by_cases hlooks : k.LooksAt node
  · rw [if_pos hlooks]
    cases hfailed : k.failed? ctx unit node with
    | some clause => simp
    | none =>
      -- The text pattern has been found, so there are captures.
      have htext := (failed?_eq_none_iff ctx unit node).1 hfailed .textPattern
      obtain ⟨kept, hkept⟩ :=
        Option.isSome_iff_exists.1 ((isSome_captures?_iff k ctx unit node).2 htext)
      simp [hlooks, hkept]
  · simp [hlooks]

/-- A node is matched when all checks are met. -/
theorem exists_evaluate_eq_matched_iff :
    (∃ captures, k.evaluate ctx unit node = .matched captures) ↔
      ∀ check, k.Meets ctx unit node check := by
  simp only [evaluate_eq_matched_iff, exists_and_left, and_iff_left_iff_imp]
  intro h
  have htext := h (some .textPattern)
  exact Option.isSome_iff_exists.1 ((isSome_captures?_iff k ctx unit node).2 htext)

/-- All conditions hold of a node that is matched. -/
theorem holds_of_evaluate_eq_matched (hk : Compiles m k) {captures : SortedMap String String}
    (h : k.evaluate ctx unit node = .matched captures) {c : Condition} (hc : m.Has c) :
    c.Holds ctx unit node := by
  have hmeets := ((evaluate_eq_matched_iff ctx unit node).1 h).1 c.clause?
  exact (meets_iff ctx unit node hk).1 hmeets c hc rfl

/-- Matchers that meet the same checks and capture the same come to the same verdict. -/
theorem evaluate_congr {k' : Matcher}
    (hmeets : ∀ check, k'.Meets ctx unit node check ↔ k.Meets ctx unit node check)
    (htext : k'.text = k.text) : k'.evaluate ctx unit node = k.evaluate ctx unit node := by
  have hfailed : k'.failed? ctx unit node = k.failed? ctx unit node := by
    unfold failed?
    congr 1
    funext clause
    simp only [show clause.Holds k' ctx unit node ↔ clause.Holds k ctx unit node from
      hmeets (some clause)]
  have hlooks : k'.LooksAt node ↔ k.LooksAt node := hmeets none
  have hcaptures : k'.captures? node = k.captures? node := by rw [captures?, captures?, htext]
  simp only [evaluate_eq, hlooks, hfailed, hcaptures]

end Checks

end Matcher

/-! ## One condition after the other -/

section Alone

variable (ctx : RunContext) (unit : SourceUnit) (node : Node)

/-- What a condition alone comes to on a node. -/
def Condition.Gives (c : Condition) (v : Verdict) : Prop :=
  ∃ k, Matcher.compile c.alone = .ok k ∧ k.evaluate ctx unit node = v

/-- One of the conditions alone rejects a node in the name of a clause. -/
def MatchSource.Rejects (m : MatchSource) (clause : Clause) : Prop :=
  ∃ c, m.Has c ∧ c.Gives ctx unit node (.rejected clause)

namespace Matcher

variable {m : MatchSource} {k : Matcher} {c : Condition}

theorem meets_alone_iff (hk : Compiles c.alone k) {check : Option Clause} :
    k.Meets ctx unit node check ↔ (c.clause? = check → c.Holds ctx unit node) := by
  simp only [meets_iff ctx unit node hk, Condition.has_alone_iff, forall_eq]

theorem gives_matched_iff (h : compile c.alone = .ok k) :
    (∃ captures, c.Gives ctx unit node (.matched captures)) ↔ c.Holds ctx unit node := by
  have hgives : (∃ captures, c.Gives ctx unit node (.matched captures)) ↔
      ∃ captures, k.evaluate ctx unit node = .matched captures := by
    simp [Condition.Gives, h]
  rw [hgives, exists_evaluate_eq_matched_iff]
  simp only [meets_alone_iff ctx unit node (compiles_of_compile_eq_ok h), forall_eq']

theorem gives_rejected_iff (h : compile c.alone = .ok k) {clause : Clause} :
    c.Gives ctx unit node (.rejected clause) ↔
      c.clause? = some clause ∧ ¬ c.Holds ctx unit node := by
  have hgives : c.Gives ctx unit node (.rejected clause) ↔
      k.evaluate ctx unit node = .rejected clause := by
    simp [Condition.Gives, h]
  have hmeets {check : Option Clause} :
      k.Meets ctx unit node check ↔ (c.clause? = check → c.Holds ctx unit node) :=
    meets_alone_iff ctx unit node (compiles_of_compile_eq_ok h)
  have hfailed {clause : Clause} (hclause : k.failed? ctx unit node = some clause) :
      c.clause? = some clause ∧ ¬ c.Holds ctx unit node := by
    obtain ⟨_, _, -, hnot, -⟩ := (failed?_eq_some_iff ctx unit node).1 hclause
    simpa [hmeets] using hnot
  rw [hgives, evaluate_eq_rejected_iff]
  constructor
  · intro hverdict
    obtain ⟨-, hclause⟩ := hverdict
    exact hfailed hclause
  · intro hfails
    obtain ⟨hclause, hc⟩ := hfails
    refine ⟨hmeets.2 fun hnone => (by cases hclause.symm.trans hnone), ?_⟩
    cases hfirst : k.failed? ctx unit node with
    | none =>
      have hmet := (failed?_eq_none_iff ctx unit node).1 hfirst clause
      exact absurd (hmeets.1 hmet hclause) hc
    | some clause' =>
      cases hclause.symm.trans (hfailed hfirst).1
      rfl

/-! ## All conditions together -/

/-- A check of a clause is not met when a condition alone rejects the node in its name. -/
theorem not_meets_some_iff (h : compile m = .ok k) {clause : Clause} :
    ¬ k.Meets ctx unit node (some clause) ↔ m.Rejects ctx unit node clause := by
  rw [meets_iff ctx unit node (compiles_of_compile_eq_ok h)]
  push Not
  refine exists_congr fun c => and_congr_right fun hc => ?_
  obtain ⟨k', hk'⟩ := exists_compile_alone h hc
  rw [gives_rejected_iff ctx unit node hk']

theorem meets_none_iff (h : compile m = .ok k) :
    k.Meets ctx unit node none ↔ ∀ kinds, m.kinds = some kinds → node.kind ∈ kinds := by
  rw [Meets, LooksAt, (compiles_of_compile_eq_ok h).kinds]
  rfl

/-- **Conditions count one by one.** -/
theorem matches_iff (h : compile m = .ok k) :
    (∃ captures, k.evaluate ctx unit node = .matched captures) ↔
      ∀ c, m.Has c → ∃ captures, c.Gives ctx unit node (.matched captures) := by
  simp only [exists_evaluate_eq_matched_iff, meets_iff ctx unit node (compiles_of_compile_eq_ok h)]
  have halone (c : Condition) (hc : m.Has c) :
      (∃ captures, c.Gives ctx unit node (.matched captures)) ↔ c.Holds ctx unit node := by
    obtain ⟨k', hk'⟩ := exists_compile_alone h hc
    exact gives_matched_iff ctx unit node hk'
  constructor
  · intro hall c hc
    exact (halone c hc).2 (hall c.clause? c hc rfl)
  · intro hall check c hc _
    exact (halone c hc).1 (hall c hc)

/-- The first clause whose condition alone rejects the node. -/
theorem rejected_iff (h : compile m = .ok k) {clause : Clause} :
    k.evaluate ctx unit node = .rejected clause ↔
      (∀ kinds, m.kinds = some kinds → node.kind ∈ kinds) ∧ ∃ before after,
        Clause.inOrder = before ++ clause :: after ∧ m.Rejects ctx unit node clause ∧
          ∀ b ∈ before, ¬ m.Rejects ctx unit node b := by
  simp only [evaluate_eq_rejected_iff, failed?_eq_some_iff, meets_none_iff ctx unit node h,
    ← not_meets_some_iff ctx unit node h, not_not]

/-- **A further condition** never makes a node match, and captures nothing unless it is a text
pattern. -/
theorem matched_of_add (h : compile m = .ok k) {k' : Matcher} (hlacks : m.Lacks c)
    (h' : compile (m.add c) = .ok k') {captures' : SortedMap String String}
    (hmatch : k'.evaluate ctx unit node = .matched captures') :
    ∃ captures, k.evaluate ctx unit node = .matched captures ∧
      (c.clause? ≠ some .textPattern → captures' = captures) := by
  have hall := (matches_iff ctx unit node h').1 ⟨captures', hmatch⟩
  obtain ⟨captures, hcaptures⟩ := (matches_iff ctx unit node h).2 fun c' hc' =>
    hall c' ((MatchSource.has_add_of_lacks hlacks).2 (.inr hc'))
  refine ⟨captures, hcaptures, fun hclause => ?_⟩
  have htext := (compiles_of_compile_eq_ok h').text
  rw [MatchSource.textPattern_add hclause] at htext
  have hkept' := captures?_of_evaluate_eq_matched hmatch
  rw [captures?, htext.unique (compiles_of_compile_eq_ok h).text] at hkept'
  exact Option.some.inj (hkept'.symm.trans (captures?_of_evaluate_eq_matched hcaptures))

/-- Lists with the same members, or none. -/
abbrev SameMembers : Option (List String) → Option (List String) → Prop :=
  Option.Rel fun names names' => ∀ name, name ∈ names ↔ name ∈ names'

theorem SameMembers.forall_iff {names names' : Option (List String)} (h : SameMembers names names')
    (name : String) : (∀ l ∈ names', name ∈ l) ↔ ∀ l ∈ names, name ∈ l := by
  cases h with
  | none => exact Iff.rfl
  | some h => simp [h name]

theorem SameMembers.isNone_eq {names names' : Option (List String)} (h : SameMembers names names') :
    names'.isNone = names.isNone := by
  cases h <;> rfl

/-- **Lists are sets.** Only the members of the lists of kinds and packages count. -/
theorem evaluate_sameMembers (h : compile m = .ok k) {kinds names : Option (List String)}
    (hkinds : SameMembers m.kinds kinds) (hnames : SameMembers m.packages names) :
    ∃ k', compile { m with kinds := kinds, packages := names } = .ok k' ∧
      k'.evaluate ctx unit node = k.evaluate ctx unit node := by
  have hk := compiles_of_compile_eq_ok h
  have hne : { m with kinds := kinds, packages := names } ≠ ({} : MatchSource) := by
    have hgiven := hk.given
    intro hempty
    rw [← MatchSource.isEmpty_iff] at hempty
    simp only [MatchSource.isEmpty, hkinds.isNone_eq, hnames.isNone_eq] at hempty hgiven
    cases hempty.symm.trans hgiven
  obtain ⟨k', h'⟩ := compile_eq_ok_of_patterns hne fun p => not_refused_of_compile_eq_ok h p
  have hk' := compiles_of_compile_eq_ok h'
  refine ⟨k', h', evaluate_congr ctx unit node (fun check => ?_) (hk'.text.unique hk.text)⟩
  cases check with
  | none =>
    rw [Meets, Meets, LooksAt, LooksAt, hk'.kinds, hk.kinds]
    exact hkinds.forall_iff node.kind
  | some clause =>
    rw [Meets, Meets]
    cases clause with
    | package =>
      rw [Clause.Holds, Clause.Holds, hk'.packages, hk.packages]
      exact hnames.forall_iff (ctx.packageName unit)
    | pathPattern => rw [Clause.Holds, Clause.Holds, hk'.path.unique hk.path]
    | textPattern => rw [Clause.Holds, Clause.Holds, hk'.text.unique hk.text]
    | notTextPattern => rw [Clause.Holds, Clause.Holds, hk'.notText.unique hk.notText]
    | typePattern => rw [Clause.Holds, Clause.Holds, hk'.type.unique hk.type]

/-- **A matcher is its conditions.** Each condition of a matcher makes a matcher by itself, and the
node is matched when each of these matches it. It is skipped when its kind is not one of those that
are given, if any are. Otherwise it is rejected in the name of the first clause whose condition
alone rejects it. A further condition matches no further node, and nodes that still match have the
same captures unless it is the text pattern. In what order and how often a list names kinds or
packages does not matter. -/
theorem evaluate_by_conditions (h : compile m = .ok k) :
    (∀ c, m.Has c → ∃ k', compile c.alone = .ok k') ∧
    ((∃ captures, k.evaluate ctx unit node = .matched captures) ↔
      ∀ c, m.Has c → ∃ captures, c.Gives ctx unit node (.matched captures)) ∧
    (k.evaluate ctx unit node = .skipped ↔ ∃ kinds, m.kinds = some kinds ∧ node.kind ∉ kinds) ∧
    (∀ clause, k.evaluate ctx unit node = .rejected clause ↔
      (∀ kinds, m.kinds = some kinds → node.kind ∈ kinds) ∧ ∃ before after,
        Clause.inOrder = before ++ clause :: after ∧ m.Rejects ctx unit node clause ∧
          ∀ b ∈ before, ¬ m.Rejects ctx unit node b) ∧
    (∀ c k', m.Lacks c → compile (m.add c) = .ok k' → ∀ captures',
      k'.evaluate ctx unit node = .matched captures' →
        ∃ captures, k.evaluate ctx unit node = .matched captures ∧
          (c.clause? ≠ some .textPattern → captures' = captures)) ∧
    ∀ kinds names, SameMembers m.kinds kinds → SameMembers m.packages names →
      ∃ k', compile { m with kinds := kinds, packages := names } = .ok k' ∧
        k'.evaluate ctx unit node = k.evaluate ctx unit node := by
  refine ⟨fun c => exists_compile_alone h, matches_iff ctx unit node h, ?_,
    fun clause => rejected_iff ctx unit node h,
    fun c k' hlacks h' captures' => matched_of_add ctx unit node h hlacks h',
    fun kinds names => evaluate_sameMembers ctx unit node h⟩
  rw [evaluate_eq_skipped_iff, meets_none_iff ctx unit node h]
  push Not
  rfl

/-- Calls with a `y` in them, in some packages. -/
def callsWithY (packages : Option (List String)) : Matcher :=
  let expr : Regex.Expr := .set (.single 'y')
  ⟨some ["call"], some ⟨"y", expr, .compile expr⟩, none, none, none, packages⟩

/-- Calls with a `y` in them are matched in the package `main`, so they are matched in all packages,
with the same captures, and naming their kind twice makes no difference. -/
theorem evaluate_by_conditions_calls :
    let m : MatchSource := { kinds := some ["call"], textPattern := some "y" }
    let c : Condition := .packages ["main"]
    let ctx : RunContext := { lines := .ofSource "p" "" }
    let unit : SourceUnit := { path := "p", package := "main" }
    let node : Node := ⟨0, "call", {}, "xy"⟩
    ∃ k k', compile m = .ok k ∧ m.Lacks c ∧ compile (m.add c) = .ok k' ∧
      k'.evaluate ctx unit node = .matched ∅ ∧ k.evaluate ctx unit node = .matched ∅ ∧
      SameMembers m.kinds (some ["call", "call"]) ∧ ∃ k'',
        compile { m with kinds := some ["call", "call"], packages := none } = .ok k'' ∧
          k''.evaluate ctx unit node = .matched ∅ := by
  intro m c ctx unit node
  have h : compile m = .ok (callsWithY none) := by cbv
  have h' : compile (m.add c) = .ok (callsWithY (some ["main"])) := by cbv
  have hmatch' : (callsWithY (some ["main"])).evaluate ctx unit node = .matched ∅ := by cbv
  have hlacks : m.Lacks c := by
    intro c' hc' hclause
    cases c' <;> cases hc' <;> cases hclause
  have hsame : SameMembers m.kinds (some ["call", "call"]) := .some (by simp)
  obtain ⟨-, -, -, -, hadd, hsets⟩ := evaluate_by_conditions ctx unit node h
  obtain ⟨captures, hmatch, hcaptures⟩ := hadd c _ hlacks h' ∅ hmatch'
  have hclause : c.clause? ≠ some .textPattern := by
    intro hclause
    cases hclause
  cases hcaptures hclause
  obtain ⟨k'', h'', hmatch''⟩ := hsets (some ["call", "call"]) none hsame .none
  exact ⟨_, _, h, hlacks, h', hmatch', hmatch, hsame, k'', h'', hmatch''.trans hmatch⟩

end Matcher

end Alone

end Rulebook
