import Rulebook.Proofs.Strictness

/-!
# Contexts that allow more imports

The packages that may be imported matter only for the question whether a file imports one that may
not be.

**Theorem (`resolve_of_within`).** When more packages may be imported, a file that compiled still
compiles to the same rules and a fault of its text is still told alike; only failed imports can
change. If failed imports are fatal, what resolved still resolves to the same.

Imports are looked at before any rule is compiled. So the outcome of a file that is no failed import
is the same in the wider context (`compile_of_within`), and everything else follows from that. The
condition on the policy is needed: where failed imports are passed over, the wider context can turn
one into a bad rule, which may be fatal.
-/

namespace Rulebook

/-- What may be imported may be imported in the other context as well. -/
def ParseContext.Within (ctx ctx' : ParseContext) : Prop :=
  ∀ package ∈ ctx.importable.toList, package ∈ ctx'.importable.toList

theorem ParseContext.Within.canImport {ctx ctx' : ParseContext} (h : ctx.Within ctx')
    {package : String} (hcan : ctx.canImport package = true) : ctx'.canImport package = true := by
  simp only [ParseContext.canImport, SortedSet.contains, List.contains_iff_mem] at hcan ⊢
  exact h package hcan

/-- An outcome that is no failed import. -/
def KeepsImports {α : Type} (x : Except LoadError α) : Prop :=
  ∀ e, x = .error e → e.isImport = false

theorem keepsImports_ok {α : Type} (a : α) : KeepsImports (.ok a) := by
  intro e he
  cases he

theorem keepsImports_error {α : Type} {e : LoadError} (h : e.isImport = false) :
    KeepsImports (.error e : Except LoadError α) := by
  intro e' he
  cases he
  exact h

/-! ## One file -/

namespace RuleFile

/-- **A wider context** changes nothing but failed imports. -/
theorem compile_of_within {ctx ctx' : ParseContext} (h : ctx.Within ctx') {file content : String}
    (hkeeps : KeepsImports (compile ctx file content)) :
    compile ctx' file content = compile ctx file content := by
  cases hd : Toml.decode RuleFile.ofData content with
  | error fault => rw [compile_of_decode_error hd, compile_of_decode_error hd]
  | ok parsed =>
    cases hi : parsed.imports.find? fun p => !ctx.canImport p with
    | some package =>
      have hfailed := hkeeps _ (compile_of_import hd hi)
      cases hfailed
    | none =>
      have himports : ∀ p ∈ parsed.imports, ctx.canImport p = true := by
        simpa using List.find?_eq_none.1 hi
      have himports' : ∀ p ∈ parsed.imports, ctx'.canImport p = true := by
        intro p hp
        exact h.canImport (himports p hp)
      rw [compile_of_imports hd himports, compile_of_imports hd himports']

/-- An import that fails in the wider context leaves only a failed import in the narrower one. -/
theorem exists_importFailed_of_within {ctx ctx' : ParseContext} (h : ctx.Within ctx')
    {file content : String} {e : LoadError} (he : compile ctx' file content = .error e)
    (himport : e.isImport = true) :
    ∃ package, compile ctx file content = .error (.importFailed file package) := by
  by_contra hnone
  have hkeeps : KeepsImports (compile ctx file content) := by
    intro e' he'
    cases e' with
    | importFailed file' package =>
      have hfile : file' = file := file_of_compile_eq_error he'
      subst hfile
      exact absurd ⟨package, he'⟩ hnone
    | dsl => rfl
    | readFailed => rfl
  have hkept := compile_of_within h hkeeps
  have hfalse := hkeeps e (hkept ▸ he)
  rw [himport] at hfalse
  cases hfalse

end RuleFile

/-! ## A resolution -/

namespace Resolution

variable {fs : FileSystem} {ctx ctx' : ParseContext} {policy : FailurePolicy}

theorem outcome_of_within (h : ctx.Within ctx') {file : String}
    (hkeeps : KeepsImports (outcome fs ctx file)) : outcome fs ctx' file = outcome fs ctx file := by
  unfold outcome at hkeeps ⊢
  cases hread : readRuleFile fs file with
  | error e => rfl
  | ok text =>
    rw [hread] at hkeeps
    exact RuleFile.compile_of_within h hkeeps

theorem settle_congr {files : List String}
    (h : ∀ f ∈ files, outcome fs ctx f = outcome fs ctx' f) (r : Resolution LoadedRules) :
    settle fs ctx r files = settle fs ctx' r files := by
  have hsets : files.filterMap (fun f => (outcome fs ctx f).toOption) =
      files.filterMap fun f => (outcome fs ctx' f).toOption :=
    List.filterMap_congr fun f hf => by rw [h f hf]
  have hloaded : files.filter (fun f => (outcome fs ctx f).isOk) =
      files.filter fun f => (outcome fs ctx' f).isOk :=
    List.filter_congr fun f hf => by rw [h f hf]
  have hskipped : failures fs ctx files = failures fs ctx' files :=
    List.filterMap_congr fun f hf => by rw [h f hf]
  simp only [settle, hsets, hloaded, hskipped]

/-- Where failed imports are fatal, a file that does not stop the resolution has none. -/
theorem keepsImports_of_stop?_eq_none
    (hpolicy : .imports ∈ policy.conditions ∨ .all ∈ policy.conditions) {file : String}
    (h : stop? fs ctx policy (.file file) = none) : KeepsImports (outcome fs ctx file) := by
  intro e he
  cases himport : e.isImport with
  | false => rfl
  | true =>
    have hstop := (stop?_eq_none_iff fs ctx policy).1 h
    have hfails := outcome_eq_error_iff.1 he
    rcases hpolicy with hc | hc
    · exact absurd (.fatal hfails hc himport) (hstop _)
    · exact absurd (.fatal hfails hc rfl) (hstop _)

theorem resolve_eq_ok_of_within (h : ctx.Within ctx')
    (hpolicy : .imports ∈ policy.conditions ∨ .all ∈ policy.conditions)
    {patterns : List RulePattern} {engine : LoadedRules} {r : Resolution LoadedRules}
    (hok : resolve fs ctx policy patterns engine = .ok r) :
    resolve fs ctx' policy patterns engine = .ok r := by
  rw [resolve_eq_ok_iff] at hok ⊢
  obtain ⟨hgoesOn, rfl⟩ := hok
  have hsame : ∀ f, .file f ∈ steps fs patterns → outcome fs ctx' f = outcome fs ctx f := by
    intro f hf
    exact outcome_of_within h (keepsImports_of_stop?_eq_none hpolicy (hgoesOn _ hf))
  constructor
  · intro s hs
    have hstop := hgoesOn s hs
    cases s with
    | unmatched pattern => exact hstop
    | file f =>
      simp only [stop?, hsame f hs] at hstop ⊢
      exact hstop
  · refine settle_congr (fun f hf => ?_) _
    exact (hsame f (file_mem_steps_iff.2 hf)).symm

/-- **More imports.** When all that may be imported in a context may be imported in another, a file
that compiles compiles there to the same rule set, a fault of its text is told there in the same
words, and an import that fails there fails here too, be it at another package. When failed imports
are fatal, what resolves resolves there to the same engine, with the same files loaded, the same
files left out and the same failures. -/
theorem resolve_of_within (ctx ctx' : ParseContext) (h : ctx.Within ctx') :
    (∀ file content,
      (∀ set, RuleFile.compile ctx file content = .ok set →
        RuleFile.compile ctx' file content = .ok set) ∧
      (∀ name line message, RuleFile.compile ctx file content = .error (.dsl name line message) →
        RuleFile.compile ctx' file content = .error (.dsl name line message)) ∧
      ∀ name package, RuleFile.compile ctx' file content = .error (.importFailed name package) →
        ∃ package', RuleFile.compile ctx file content = .error (.importFailed file package')) ∧
    ∀ (fs : FileSystem) (policy : FailurePolicy) (patterns : List RulePattern)
      (engine : LoadedRules),
      .imports ∈ policy.conditions ∨ .all ∈ policy.conditions →
      ∀ r, resolve fs ctx policy patterns engine = .ok r →
        resolve fs ctx' policy patterns engine = .ok r := by
  refine ⟨fun file content => ⟨fun set hset => ?_, fun name line message hdsl => ?_,
    fun name package himport => ?_⟩, fun fs policy patterns engine hpolicy r hok => ?_⟩
  · rw [RuleFile.compile_of_within h (hset ▸ keepsImports_ok set), hset]
  · rw [RuleFile.compile_of_within h (hdsl ▸ keepsImports_error rfl), hdsl]
  · exact RuleFile.exists_importFailed_of_within h himport rfl
  · exact resolve_eq_ok_of_within h hpolicy hok

/-- A file that imports `strings`, a file that is no rule file, and no others. -/
def goodAndBad : FileSystem where
  root := "/"
  isThere _ := .ok true
  read path := .ok (if path = "bad" then "[" else "package.imports=[\"strings\"]")
  metadata _ := .ok (.file 0)
  glob pattern := .ok [pattern]

/-- Under a policy for failed imports alone the bad file is left out in both contexts, for the same
reason. -/
theorem resolve_of_within_goodAndBad :
    let ctx : ParseContext := ⟨SortedSet.ofList ["strings"]⟩
    let ctx' : ParseContext := ⟨SortedSet.ofList ["strings", "fmt"]⟩
    let policy := FailurePolicy.ofConditions [.imports]
    let patterns := [RulePattern.mk "good", ⟨"bad"⟩]
    ctx.Within ctx' ∧ .imports ∈ policy.conditions ∧
    ∃ r, resolve goodAndBad ctx policy patterns ({} : LoadedRules) = .ok r ∧
      resolve goodAndBad ctx' policy patterns ({} : LoadedRules) = .ok r ∧
      r.loaded = ["good"] ∧ r.skipped.map SkippedFile.file = ["bad"] := by
  intro ctx ctx' policy patterns
  have h : ctx.Within ctx' := by
    have hctx : ctx.importable.toList = ["strings"] := by decide +kernel
    have hctx' : ctx'.importable.toList = ["fmt", "strings"] := by decide +kernel
    simp [ParseContext.Within, hctx, hctx']
  have hpolicy : .imports ∈ policy.conditions := by decide
  have hseen : (resolve goodAndBad ctx policy patterns ({} : LoadedRules)).map
      (fun r => (r.loaded, r.skipped.map SkippedFile.file)) = .ok (["good"], ["bad"]) := by
    decide +kernel
  obtain ⟨r, hr, hfiles⟩ := map_eq_ok_iff.1 hseen
  obtain ⟨hloaded, hskipped⟩ := Prod.mk.inj hfiles
  have hr' := (resolve_of_within ctx ctx' h).2 goodAndBad policy patterns {} (.inl hpolicy) r hr
  exact ⟨h, hpolicy, r, hr, hr', hloaded, hskipped⟩

end Resolution

end Rulebook
