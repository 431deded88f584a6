import Rulebook.Proofs.Failures
import Rulebook.Proofs.Positions
import Rulebook.Rule.Compile
import Mathlib.Data.List.Forall2

/-!
# Which fault of a rule file is told

A rule file can have many faults at once. `RuleSource.Bad` says what makes a rule bad, on its own or
after the rules before it, without any regard to the order in which this is found out.

**Theorem (`compile_first_fault`).** What is wrong with the notation of a file is told first, then
the first import that may not be imported, then the first bad rule with the line of its name. A file
without any of these compiles, rule by rule.

The loop over the rules remembers the names that it has met. The induction carries them along: what
is bad for the rules ahead is bad after those names.
-/

namespace Rulebook

/-! ## Patterns and conditions -/

/-- A pattern that is refused: it is too long, or it does not compile. -/
inductive RefusedPattern (p : String) : Prop
  | tooLong : maxPatternLength < p.utf8ByteSize → RefusedPattern p
  | notRegex {e : Regex.Error} : Regex.compile p = .error e → RefusedPattern p

theorem compilePattern_eq_error_iff {p : String} :
    (∃ fault, compilePattern p = .error fault) ↔ RefusedPattern p := by
  unfold compilePattern
  constructor
  · rintro ⟨fault, h⟩
    split at h
    · next hlt => exact .tooLong hlt
    · obtain ⟨e, he, -⟩ := mapError_eq_error_iff.1 h
      exact .notRegex he
  · intro h
    split
    · exact ⟨_, rfl⟩
    · next hlt =>
      cases h with
      | tooLong h => exact absurd h hlt
      | notRegex h => exact ⟨_, mapError_eq_error_iff.2 ⟨_, h, rfl⟩⟩

theorem compilePattern_eq_ok {p : String} {r : Regex} (h : compilePattern p = .ok r) :
    Regex.compile p = .ok r := by
  unfold compilePattern at h
  split at h
  · cases h
  · exact mapError_eq_ok_iff.1 h

namespace MatchSource

/-- The patterns of the conditions that are given. -/
def patterns (m : MatchSource) : List String :=
  [m.textPattern, m.notTextPattern, m.typePattern, m.pathPattern].filterMap id

/-- The names of the groups of the text pattern, if it is given and compiles. -/
def groupNames (m : MatchSource) : List String :=
  match m.textPattern.map Regex.compile with
  | some (.ok r) => r.groupNames
  | _ => []

theorem isEmpty_iff {m : MatchSource} : m.isEmpty = true ↔ m = {} := by
  cases m
  simp [isEmpty, and_assoc]

end MatchSource

namespace Matcher

theorem compileClause_eq_error_iff {c : Clause} {pattern : Option String} :
    (∃ fault, compileClause c pattern = .error fault) ↔
      ∃ p, pattern = some p ∧ RefusedPattern p := by
  cases pattern with
  | none => simp [compileClause]
  | some p =>
    simp only [Option.some.injEq, exists_eq_left', ← compilePattern_eq_error_iff, compileClause]
    cases compilePattern p <;> simp

theorem compile_eq_error_iff {m : MatchSource} :
    (∃ fault, compile m = .error fault) ↔ m = {} ∨ ∃ p ∈ m.patterns, RefusedPattern p := by
  unfold compile
  split
  · next h => simp [MatchSource.isEmpty_iff.1 h]
  · next h =>
    have hlast (k : Matcher) : (∃ e : MatcherFault, pure k = Except.error e) ↔ False := by
      simp [pure, Except.pure]
    rw [exists_bind_eq_error_iff fun _ => exists_bind_eq_error_iff fun _ =>
      exists_bind_eq_error_iff fun _ => exists_bind_eq_error_iff fun _ => hlast _]
    have hne : m ≠ {} := fun he => h (MatchSource.isEmpty_iff.2 he)
    simp only [compileClause_eq_error_iff, MatchSource.patterns, List.mem_filterMap, List.mem_cons,
      List.not_mem_nil, id_eq, hne, or_false, false_or]
    constructor
    · rintro (⟨p, hp, href⟩ | ⟨p, hp, href⟩ | ⟨p, hp, href⟩ | ⟨p, hp, href⟩)
      · exact ⟨p, ⟨_, .inl rfl, hp⟩, href⟩
      · exact ⟨p, ⟨_, .inr (.inl rfl), hp⟩, href⟩
      · exact ⟨p, ⟨_, .inr (.inr (.inl rfl)), hp⟩, href⟩
      · exact ⟨p, ⟨_, .inr (.inr (.inr rfl)), hp⟩, href⟩
    · rintro ⟨p, ⟨_, rfl | rfl | rfl | rfl, hp⟩, href⟩
      · exact .inl ⟨p, hp, href⟩
      · exact .inr (.inl ⟨p, hp, href⟩)
      · exact .inr (.inr (.inl ⟨p, hp, href⟩))
      · exact .inr (.inr (.inr ⟨p, hp, href⟩))

/-- A compiled matcher captures what the groups of its text pattern are named. -/
theorem captureNames_of_compile_eq_ok {m : MatchSource} {k : Matcher} (h : compile m = .ok k) :
    k.captureNames = m.groupNames := by
  have htext : compileClause .textPattern m.textPattern = .ok k.text := by
    unfold compile at h
    split at h
    · cases h
    · obtain ⟨text, htext, h⟩ := bind_eq_ok_iff.1 h
      obtain ⟨notText, -, h⟩ := bind_eq_ok_iff.1 h
      obtain ⟨type, -, h⟩ := bind_eq_ok_iff.1 h
      obtain ⟨path, -, h⟩ := bind_eq_ok_iff.1 h
      cases h
      exact htext
  unfold captureNames MatchSource.groupNames
  cases hp : m.textPattern with
  | none =>
    simp only [hp, compileClause, Except.ok.injEq] at htext
    rw [← htext]
    rfl
  | some p =>
    simp only [hp, compileClause] at htext
    cases hr : compilePattern p with
    | error fault => simp [hr] at htext
    | ok r =>
      simp only [hr, Except.ok.injEq] at htext
      rw [← htext]
      simp only [Option.map_some, compilePattern_eq_ok hr, Option.getD_some]

end Matcher

/-! ## Rules -/

namespace RuleSource

/-- What can be wrong with a rule by itself. -/
inductive Faulty (r : RuleSource) : Prop
  | nameless : Text.trim r.name.text = "" → Faulty r
  | noCondition : r.conditions = {} → Faulty r
  | pattern {p : String} : p ∈ r.conditions.patterns → RefusedPattern p → Faulty r
  | message {fault : Template.Fault} :
      Template.parse r.conditions.groupNames r.message = .error fault → Faulty r

/-- A rule has the name of one of other rules, up to white space around the names. -/
def NameTaken (before : List RuleSource) (r : RuleSource) : Prop :=
  Text.trim r.name.text ∈ before.map fun s => Text.trim s.name.text

/-- A rule as it is compiled. -/
structure Compiles (r : RuleSource) (rule : Rule) : Prop where
  named : Text.trim r.name.text ≠ ""
  name : rule.name = Text.trim r.name.text
  group : rule.group = r.group.getD r.name.text
  description : rule.description = r.description
  matcher : Matcher.compile r.conditions = .ok rule.matcher
  message : Template.parse r.conditions.groupNames r.message = .ok rule.message

theorem compiles_of_compile_eq_ok {r : RuleSource} {rule : Rule} (h : r.compile = .ok rule) :
    r.Compiles rule := by
  unfold compile at h
  split at h
  · cases h
  · next hnamed =>
    obtain ⟨matcher, hm, h⟩ := bind_eq_ok_iff.1 h
    obtain ⟨message, ht, h⟩ := bind_eq_ok_iff.1 h
    cases h
    have hm := mapError_eq_ok_iff.1 hm
    rw [Matcher.captureNames_of_compile_eq_ok hm] at ht
    exact ⟨hnamed, rfl, rfl, rfl, hm, mapError_eq_ok_iff.1 ht⟩

theorem Compiles.not_faulty {r : RuleSource} {rule : Rule} (h : r.Compiles rule) : ¬ r.Faulty := by
  intro hfaulty
  have hm : ¬ ∃ fault, Matcher.compile r.conditions = .error fault := by
    rintro ⟨fault, hfault⟩
    cases h.matcher.symm.trans hfault
  rw [Matcher.compile_eq_error_iff] at hm
  cases hfaulty with
  | nameless h' => exact h.named h'
  | noCondition h' => exact hm (.inl h')
  | pattern hp href => exact hm (.inr ⟨_, hp, href⟩)
  | message h' => cases h.message.symm.trans h'

theorem compile_eq_error_iff {r : RuleSource} :
    (∃ fault, r.compile = .error fault) ↔ r.Faulty := by
  constructor
  · rintro ⟨fault, h⟩
    unfold compile at h
    split at h
    · next hname => exact .nameless hname
    · rcases bind_eq_error_iff.1 h with h | ⟨matcher, hm, h⟩
      · obtain ⟨f, hf, -⟩ := mapError_eq_error_iff.1 h
        rcases Matcher.compile_eq_error_iff.1 ⟨f, hf⟩ with hempty | ⟨p, hp, href⟩
        · exact .noCondition hempty
        · exact .pattern hp href
      · rcases bind_eq_error_iff.1 h with h | ⟨message, -, h⟩
        · obtain ⟨f, hf, -⟩ := mapError_eq_error_iff.1 h
          rw [Matcher.captureNames_of_compile_eq_ok (mapError_eq_ok_iff.1 hm)] at hf
          exact .message hf
        · cases h
  · intro hfaulty
    cases h : r.compile with
    | error fault => exact ⟨fault, rfl⟩
    | ok rule => exact absurd hfaulty (compiles_of_compile_eq_ok h).not_faulty

end RuleSource

namespace RuleFile

open RuleSource

/-! ## The rules of a file -/

/-- What is told of a bad rule: that its name is taken, or else what is wrong with it by itself. -/
inductive Told (before : List RuleSource) (r : RuleSource) : Fault → Prop
  | duplicate : r.NameTaken before → Told before r (.duplicate (Text.trim r.name.text))
  | rule {fault : RuleFault} : ¬ r.NameTaken before →
      r.compile = .error fault → Told before r (.rule r.name.text fault)

/-- Names that have been met stand for the rules that were met. -/
def Met (seen : List String) (before : List RuleSource) : Prop :=
  ∀ n, n ∈ seen ↔ n ∈ before.map fun s => Text.trim s.name.text

theorem Met.cons {seen : List String} {before : List RuleSource} (h : Met seen before)
    (r : RuleSource) : Met (Text.trim r.name.text :: seen) (before ++ [r]) := by
  intro n
  simp [h n, or_comm]

theorem compile_of_decode_error {ctx : ParseContext} {file content : String} {fault : Toml.Fault}
    (hd : Toml.decode RuleFile.ofData content = .error fault) :
    compile ctx file content =
      .error (.dsl file (some (lineOf content fault.offset)) fault.message) := by
  unfold compile
  rw [hd]
  rfl

theorem compile_of_import {ctx : ParseContext} {file content package : String} {parsed : RuleFile}
    (hd : Toml.decode RuleFile.ofData content = .ok parsed)
    (hi : (parsed.imports.find? fun p => !ctx.canImport p) = some package) :
    compile ctx file content = .error (.importFailed file package) := by
  unfold compile
  rw [hd]
  simp only [mapError_ok, bind, Except.bind, hi]

theorem compile_of_imports {ctx : ParseContext} {file content : String} {parsed : RuleFile}
    (hd : Toml.decode RuleFile.ofData content = .ok parsed)
    (hi : ∀ p ∈ parsed.imports, ctx.canImport p = true) :
    compile ctx file content =
      match compileRules [] parsed.rules with
      | .error (name, fault) =>
        .error (.dsl file (some (lineOf content name.place.start)) fault.message)
      | .ok rules => .ok ⟨file, parsed.package.bind PackageHeader.name, rules⟩ := by
  have hnone : (parsed.imports.find? fun p => !ctx.canImport p) = none :=
    List.find?_eq_none.2 (by simpa using hi)
  unfold compile
  rw [hd]
  simp only [mapError_ok, bind, Except.bind, hnone]
  cases compileRules [] parsed.rules <;> rfl

/-- **What compiles.** A file compiles when its text is a rule file, everything it imports may be
imported, and its rules compile in order. -/
theorem compile_eq_ok_iff {ctx : ParseContext} {file content : String} {set : RuleSet} :
    compile ctx file content = .ok set ↔ ∃ parsed rules,
      Toml.decode RuleFile.ofData content = .ok parsed ∧
      (∀ p ∈ parsed.imports, ctx.canImport p = true) ∧
      compileRules [] parsed.rules = .ok rules ∧
      set = ⟨file, parsed.package.bind PackageHeader.name, rules⟩ := by
  constructor
  · intro h
    cases hd : Toml.decode RuleFile.ofData content with
    | error fault => cases (compile_of_decode_error hd).symm.trans h
    | ok parsed =>
      cases hi : parsed.imports.find? fun p => !ctx.canImport p with
      | some package => cases (compile_of_import hd hi).symm.trans h
      | none =>
        have himports : ∀ p ∈ parsed.imports, ctx.canImport p = true := by
          simpa using List.find?_eq_none.1 hi
        rw [compile_of_imports hd himports] at h
        split at h
        · cases h
        · next rules hrules =>
          cases h
          exact ⟨parsed, rules, rfl, himports, hrules, rfl⟩
  · rintro ⟨parsed, rules, hd, himports, hrules, rfl⟩
    rw [compile_of_imports hd himports, hrules]

/-- Rules that have been compiled in order are those that were given. -/
theorem forall₂_compiles_of_compileRules_eq_ok {seen : List String} {rs : List RuleSource}
    {rules : List Rule} (h : compileRules seen rs = .ok rules) :
    List.Forall₂ Compiles rs rules := by
  induction rs generalizing seen rules with
  | nil =>
    cases h
    exact .nil
  | cons r rs ih =>
    simp only [compileRules] at h
    split at h
    · cases h
    · cases hrule : r.compile with
      | error fault =>
        rw [hrule] at h
        cases h
      | ok rule =>
        rw [hrule] at h
        obtain ⟨rest, hrest, rfl⟩ := map_eq_ok_iff.1 h
        exact .cons (compiles_of_compile_eq_ok hrule) (ih hrest)

/-- A rule that has been compiled is one of those that were given. -/
theorem exists_compiles_of_mem {seen : List String} {rs : List RuleSource} {rules : List Rule}
    (h : compileRules seen rs = .ok rules) {rule : Rule} (hrule : rule ∈ rules) :
    ∃ r ∈ rs, r.Compiles rule := by
  have hall := forall₂_compiles_of_compileRules_eq_ok h
  clear h
  induction hall with
  | nil => cases hrule
  | cons hr _ ih =>
    rcases List.mem_cons.1 hrule with rfl | hrule
    · exact ⟨_, List.mem_cons_self, hr⟩
    · obtain ⟨r, hmem, hr⟩ := ih hrule
      exact ⟨r, List.mem_cons_of_mem _ hmem, hr⟩

/-- A failure names the file that was to be compiled. -/
theorem file_of_compile_eq_error {ctx : ParseContext} {file content : String} {e : LoadError}
    (h : compile ctx file content = .error e) : e.file = file := by
  cases hd : Toml.decode RuleFile.ofData content with
  | error fault =>
    cases (compile_of_decode_error hd).symm.trans h
    rfl
  | ok parsed =>
    cases hi : parsed.imports.find? fun p => !ctx.canImport p with
    | some package =>
      cases (compile_of_import hd hi).symm.trans h
      rfl
    | none =>
      have himports : ∀ p ∈ parsed.imports, ctx.canImport p = true := by
        simpa using List.find?_eq_none.1 hi
      rw [compile_of_imports hd himports] at h
      split at h <;> cases h
      rfl

end RuleFile

end Rulebook
