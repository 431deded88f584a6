import Rulebook.Proofs.Loading
import Rulebook.Proofs.RuleFaults

/-!
# Histories of calls

Of all the calls that were made to an engine, only those that succeeded have left anything behind.

**Theorem (`afterAll_history`).** After any calls an engine is what the successful ones alone make
of it. A further call either fails, and nothing that can be asked of the engine has changed, or it
adds the rules of its file behind all that was there.

Whether a call succeeds depends on the call alone (`isOk_load`): an engine that holds the same file
or rules of the same names already takes a file in as an empty engine would.
-/

namespace Rulebook

/-- Whether a call succeeds. -/
def LoadCall.succeeds (c : LoadCall) : Bool := (RuleFile.compile c.ctx c.file c.content).isOk

namespace LoadedRules

/-- An engine has no say in whether a call to it succeeds. -/
theorem isOk_load (l : LoadedRules) (c : LoadCall) :
    (l.load c.ctx c.file c.content).isOk = c.succeeds := by
  unfold LoadCall.succeeds
  rw [load_eq]
  cases RuleFile.compile c.ctx c.file c.content <;> rfl

theorem afterAll_append (l : LoadedRules) (calls calls' : List LoadCall) :
    l.afterAll (calls ++ calls') = (l.afterAll calls).afterAll calls' :=
  List.foldl_append

/-- A call that fails leaves the engine as it was. -/
theorem after_of_load_eq_error {l : LoadedRules} {c : LoadCall} {e : LoadError}
    (h : l.load c.ctx c.file c.content = .error e) : l.after c = l := by
  simp only [after, h]

theorem after_of_load_eq_ok {l l' : LoadedRules} {c : LoadCall}
    (h : l.load c.ctx c.file c.content = .ok l') : l.after c = l' := by
  simp only [after, h]

/-- **The successful calls suffice.** Made one after the other they all succeed again, and lead to
the same engine. -/
theorem foldlM_load_successes (l : LoadedRules) (calls : List LoadCall) :
    (calls.filter LoadCall.succeeds).foldlM (fun l c => l.load c.ctx c.file c.content) l =
      .ok (l.afterAll calls) := by
  induction calls generalizing l with
  | nil => rfl
  | cons c calls ih =>
    change _ = Except.ok ((l.after c).afterAll calls)
    have hsucceeds := isOk_load l c
    cases hload : l.load c.ctx c.file c.content with
    | error e =>
      rw [hload] at hsucceeds
      rw [List.filter_cons_of_neg (by simp [← hsucceeds, Except.isOk, Except.toBool]),
        after_of_load_eq_error hload]
      exact ih l
    | ok l' =>
      rw [hload] at hsucceeds
      rw [List.filter_cons_of_pos (by simp [← hsucceeds, Except.isOk, Except.toBool]),
        List.foldlM_cons, hload, after_of_load_eq_ok hload]
      exact ih l'

theorem ruleCount_append (sets : List RuleSet) (set : RuleSet) :
    ruleCount ⟨sets ++ [set]⟩ = ruleCount ⟨sets⟩ + set.rules.length := by
  simp [ruleCount]

/-- What a successful call makes of an engine: one rule set more at the end, with one rule for each
rule of the file. -/
structure TakesIn (l : LoadedRules) (c : LoadCall) (l' : LoadedRules) (parsed : RuleFile) :
    Prop where
  decoded : Toml.decode RuleFile.ofData c.content = .ok parsed
  sets : ∃ set, l'.sets = l.sets ++ [set] ∧ RuleFile.compile c.ctx c.file c.content = .ok set ∧
    List.Forall₂ RuleSource.Compiles parsed.rules set.rules
  files : l'.files = l.files ++ [c.file]
  ruleCount : l'.ruleCount = l.ruleCount + parsed.rules.length

theorem takesIn_of_load_eq_ok {l l' : LoadedRules} {c : LoadCall}
    (h : l.load c.ctx c.file c.content = .ok l') : ∃ parsed, l.TakesIn c l' parsed := by
  rw [load_eq] at h
  obtain ⟨set, hset, rfl⟩ := map_eq_ok_iff.1 h
  obtain ⟨parsed, rules, hd, himports, hrules, rfl⟩ := RuleFile.compile_eq_ok_iff.1 hset
  have hall := RuleFile.forall₂_compiles_of_compileRules_eq_ok hrules
  refine ⟨parsed, hd, ⟨_, rfl, hset, hall⟩, by simp [files], ?_⟩
  rw [ruleCount_append, hall.length_eq]

/-- **Failed calls leave no mark.** After any calls an engine is the one that the successful calls
alone give, made in the same order without a failure among them. A further call succeeds or fails
whatever the engine holds. If it fails, the engine counts the same rules and files and every run
comes out as before. If it succeeds, the rule set of the file stands behind those that were there,
and these are as they were. -/
theorem afterAll_history (l : LoadedRules) (calls : List LoadCall) (c : LoadCall) :
    let here := l.afterAll calls
    let next := l.afterAll (calls ++ [c])
    (calls.filter LoadCall.succeeds).foldlM (fun l c => l.load c.ctx c.file c.content) l =
      .ok here ∧
    (here.load c.ctx c.file c.content).isOk = c.succeeds ∧
    match here.load c.ctx c.file c.content with
    | .error _ =>
      next.ruleCount = here.ruleCount ∧ next.files = here.files ∧
        ∀ ctx unit, next.run ctx unit = here.run ctx unit
    | .ok taken => next = taken ∧ ∃ parsed, here.TakesIn c next parsed := by
  intro here next
  have hnext : next = here.after c := afterAll_append l calls [c]
  refine ⟨foldlM_load_successes l calls, isOk_load here c, ?_⟩
  cases hload : here.load c.ctx c.file c.content with
  | error e =>
    rw [hnext, after_of_load_eq_error hload]
    exact ⟨rfl, rfl, fun _ _ => rfl⟩
  | ok taken =>
    rw [hnext, after_of_load_eq_ok hload]
    exact ⟨rfl, takesIn_of_load_eq_ok hload⟩

end LoadedRules

end Rulebook
