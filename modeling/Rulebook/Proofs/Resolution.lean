import Rulebook.Check.Resolve
import Rulebook.Files.Memory
import Rulebook.Files.Tree
import Rulebook.Proofs.Failures
import Rulebook.Proofs.Loading
import Rulebook.Proofs.RuleFaults

/-!
# What resolving comes to

Resolving goes through *steps*, in order: each pattern that matches nothing is a step, and each file
that a pattern matches is one. A malformed pattern has no steps. Whether a file has rules (`Gives`)
or not (`Fails`) depends on the file alone and not on what has been loaded before it, so each step
can be judged by itself: it stops the resolution (`Stops`), or it settles a file one way or the
other.

**Theorem (`resolve_first_stop`).** The first step that stops decides. If there is none, every file
is settled: those with rules are loaded in order, the others are left out in order. A file whose
text cannot be had is never handed to an engine.

What a file comes to is computed by `outcome`, which decides between `Gives` and `Fails`. The proof
is an induction over the steps, which carries what has been settled so far (`foldlM_take`).
-/

namespace Rulebook

namespace Resolution

/-! ## Reading a rule file -/

/-- A file can be read as a rule file: it is not larger than one MiB, and it has a text. -/
structure HasText (fs : FileSystem) (file text : String) : Prop where
  small : ∃ m, fs.metadata file = .ok m ∧ m.size ≤ 1024 * 1024
  read : fs.read file = .ok text

/-- A file cannot be read as a rule file: nothing is known of it, it is larger than one MiB, or it
has no text. -/
inductive Unreadable (fs : FileSystem) (file : String) : Prop
  | unknown {e : IoError} : fs.metadata file = .error e → Unreadable fs file
  | tooLarge {m : Metadata} : fs.metadata file = .ok m → 1024 * 1024 < m.size →
      Unreadable fs file
  | textless {e : IoError} : fs.read file = .error e → Unreadable fs file

theorem exists_readRuleFile_eq_error_iff {fs : FileSystem} {file : String} :
    (∃ e, readRuleFile fs file = .error e) ↔ Unreadable fs file := by
  unfold readRuleFile
  constructor
  · rintro ⟨e, h⟩
    rcases bind_eq_error_iff.1 h with h | ⟨m, hm, h⟩
    · obtain ⟨io, hio, -⟩ := mapError_eq_error_iff.1 h
      exact .unknown hio
    · split at h
      · next hlt => exact .tooLarge (mapError_eq_ok_iff.1 hm) hlt
      · obtain ⟨io, hio, -⟩ := mapError_eq_error_iff.1 h
        exact .textless hio
  · intro h
    cases hm : fs.metadata file with
    | error io => exact ⟨.readFailed file io, rfl⟩
    | ok m =>
      simp only [mapError_ok, bind, Except.bind]
      split
      · exact ⟨_, rfl⟩
      · next hsize =>
        cases h with
        | unknown h => cases hm.symm.trans h
        | tooLarge h hlt =>
          cases hm.symm.trans h
          exact absurd hlt hsize
        | textless h => exact ⟨.readFailed file _, by rw [h, mapError_error]⟩

theorem readRuleFile_eq_ok_iff {fs : FileSystem} {file text : String} :
    readRuleFile fs file = .ok text ↔ HasText fs file text := by
  unfold readRuleFile
  rw [bind_eq_ok_iff]
  simp only [mapError_eq_ok_iff]
  constructor
  · rintro ⟨m, hm, h⟩
    split at h
    · cases h
    · next hsize => exact ⟨⟨m, hm, Nat.le_of_not_lt hsize⟩, mapError_eq_ok_iff.1 h⟩
  · rintro ⟨⟨m, hm, hsize⟩, hread⟩
    have hsize : ¬ maxRuleFileSize < m.size := Nat.not_lt.2 hsize
    refine ⟨m, hm, ?_⟩
    rw [if_neg hsize]
    exact mapError_eq_ok_iff.2 hread

/-- A file with content is readable when the content is small enough and UTF-8; a file without is
not. -/
theorem unreadable_iff_of_content {fs : FileSystem} {file : String} {content : ByteArray → Prop}
    (hcontent : ∀ bytes, content bytes → fs.metadata file = .ok (.file bytes.size) ∧
      ((∃ e, fs.read file = .error e) ↔ ∃ f, Text.decodeUtf8 bytes = .error f))
    (hnone : (∀ bytes, ¬ content bytes) → ∃ e, fs.read file = .error e) :
    Unreadable fs file ↔ ∀ bytes, content bytes →
      1024 * 1024 < bytes.size ∨ ∃ f, Text.decodeUtf8 bytes = .error f := by
  constructor
  · intro h bytes hbytes
    obtain ⟨hmeta, hread⟩ := hcontent bytes hbytes
    cases h with
    | unknown h => cases hmeta.symm.trans h
    | tooLarge h hlt =>
      cases hmeta.symm.trans h
      exact .inl hlt
    | textless h => exact .inr (hread.1 ⟨_, h⟩)
  · intro h
    by_cases hsome : ∃ bytes, content bytes
    · obtain ⟨bytes, hbytes⟩ := hsome
      obtain ⟨hmeta, hread⟩ := hcontent bytes hbytes
      rcases h bytes hbytes with hlt | hutf8
      · exact .tooLarge hmeta hlt
      · obtain ⟨e, he⟩ := hread.2 hutf8
        exact .textless he
    · obtain ⟨e, he⟩ := hnone (not_exists.1 hsome)
      exact .textless he

/-- In memory the content of a file is what is kept under its names. What is missing and what is a
directory has none. -/
theorem unreadable_memory_iff {m : MemoryFiles} {path : String} :
    Unreadable m.toFileSystem path ↔ ∀ bytes, m.content? (m.key path) = some bytes →
      1024 * 1024 < bytes.size ∨ ∃ f, Text.decodeUtf8 bytes = .error f := by
  refine unreadable_iff_of_content (fun bytes hbytes => ⟨?_, ?_⟩) fun hnone => ?_
  · change Except.ok (m.metadata path) = _
    simp only [MemoryFiles.metadata, hbytes]
  · change (∃ e, m.read path = .error e) ↔ _
    simp only [MemoryFiles.read, hbytes]
    cases Text.decodeUtf8 bytes <;> simp
  · change ∃ e, m.read path = .error e
    have hnone' : m.content? (m.key path) = none := Option.eq_none_iff_forall_ne_some.2 hnone
    simp only [MemoryFiles.read, hnone']
    split <;> exact ⟨_, rfl⟩

/-- On a disk the content of a file is what stands where its path leads to. -/
theorem unreadable_tree_iff {t : FileTree} {path : String} :
    Unreadable t.toFileSystem path ↔ ∀ bytes, t.entry path = .ok (.file bytes) →
      1024 * 1024 < bytes.size ∨ ∃ f, Text.decodeUtf8 bytes = .error f := by
  refine unreadable_iff_of_content (fun bytes hbytes => ⟨?_, ?_⟩) fun hnone => ?_
  · change t.metadata path = _
    simp only [FileTree.metadata, hbytes]
  · change (∃ e, t.read path = .error e) ↔ _
    simp only [FileTree.read, hbytes]
    cases Text.decodeUtf8 bytes <;> simp
  · change ∃ e, t.read path = .error e
    cases hentry : t.entry path with
    | error f =>
      simp only [FileTree.read, hentry]
      exact ⟨_, rfl⟩
    | ok entry =>
      cases entry with
      | file bytes => exact absurd hentry (hnone bytes)
      | dir entries =>
        simp only [FileTree.read, hentry]
        exact ⟨_, rfl⟩

/-! ## What a file comes to -/

/-- A file has rules: it can be read, and its text compiles. -/
def Gives (fs : FileSystem) (ctx : ParseContext) (file : String) (set : RuleSet) : Prop :=
  ∃ text, HasText fs file text ∧ RuleFile.compile ctx file text = .ok set

/-- Why a file has no rules: nothing is known of it, it is larger than one MiB, it has no text, or
its text does not compile. -/
inductive Fails (fs : FileSystem) (ctx : ParseContext) (file : String) : LoadError → Prop
  | unknown {io : IoError} : fs.metadata file = .error io → Fails fs ctx file (.readFailed file io)
  | tooLarge {m : Metadata} : fs.metadata file = .ok m → 1024 * 1024 < m.size →
      Fails fs ctx file (.readFailed file ⟨.invalidData,
        s!"rule file is {m.size} bytes, the limit is {1024 * 1024} bytes"⟩)
  | textless {m : Metadata} {io : IoError} : fs.metadata file = .ok m → m.size ≤ 1024 * 1024 →
      fs.read file = .error io → Fails fs ctx file (.readFailed file io)
  | faulty {text : String} {e : LoadError} : HasText fs file text →
      RuleFile.compile ctx file text = .error e → Fails fs ctx file e

/-- A failure names the file that has it. -/
theorem Fails.file_eq {fs : FileSystem} {ctx : ParseContext} {file : String} {e : LoadError}
    (h : Fails fs ctx file e) : e.file = file := by
  cases h with
  | unknown _ => rfl
  | tooLarge _ _ => rfl
  | textless _ _ _ => rfl
  | faulty _ hcompile => exact RuleFile.file_of_compile_eq_error hcompile

/-- What a file comes to, whatever has been loaded before: its rules, or why it has none. -/
def outcome (fs : FileSystem) (ctx : ParseContext) (file : String) : Except LoadError RuleSet := do
  RuleFile.compile ctx file (← readRuleFile fs file)

theorem loadFile_eq (fs : FileSystem) (ctx : ParseContext) (l : LoadedRules) (file : String) :
    loadFile fs ctx l file =
      (outcome fs ctx file).map fun set => (⟨l.sets ++ [set]⟩ : LoadedRules) := by
  unfold loadFile outcome
  cases readRuleFile fs file with
  | error e => rfl
  | ok text => exact LoadedRules.load_eq l ctx file text

theorem outcome_eq_ok_iff {fs : FileSystem} {ctx : ParseContext} {file : String} {set : RuleSet} :
    outcome fs ctx file = .ok set ↔ Gives fs ctx file set := by
  simp only [outcome, bind_eq_ok_iff, readRuleFile_eq_ok_iff, Gives]

theorem outcome_eq_error_iff {fs : FileSystem} {ctx : ParseContext} {file : String}
    {e : LoadError} : outcome fs ctx file = .error e ↔ Fails fs ctx file e := by
  constructor
  · intro h
    rcases bind_eq_error_iff.1 h with h | ⟨text, htext, hcompile⟩
    · rcases bind_eq_error_iff.1 h with h | ⟨m, hm, h⟩
      · obtain ⟨io, hio, rfl⟩ := mapError_eq_error_iff.1 h
        exact .unknown hio
      · have hm := mapError_eq_ok_iff.1 hm
        split at h
        · next hlt =>
          cases h
          exact .tooLarge hm hlt
        · next hsize =>
          obtain ⟨io, hio, rfl⟩ := mapError_eq_error_iff.1 h
          exact .textless hm (Nat.le_of_not_lt hsize) hio
    · exact .faulty (readRuleFile_eq_ok_iff.1 htext) hcompile
  · intro h
    cases h with
    | unknown hm => simp only [outcome, readRuleFile, hm, mapError_error, bind, Except.bind]
    | tooLarge hm hlt =>
      have hlt : maxRuleFileSize < Metadata.size _ := hlt
      simp only [outcome, readRuleFile, hm, mapError_ok, bind, Except.bind, if_pos hlt]
      rfl
    | textless hm hsize hread =>
      have hsize : ¬ maxRuleFileSize < Metadata.size _ := Nat.not_lt.2 hsize
      simp only [outcome, readRuleFile, hm, mapError_ok, bind, Except.bind, if_neg hsize, hread,
        mapError_error]
    | faulty htext hcompile =>
      exact bind_eq_error_iff.2 (.inr ⟨_, readRuleFile_eq_ok_iff.2 htext, hcompile⟩)

/-- A file fails when it cannot be read or its text does not compile. -/
theorem exists_fails_iff {fs : FileSystem} {ctx : ParseContext} {file : String} :
    (∃ e, Fails fs ctx file e) ↔ Unreadable fs file ∨
      ∃ text e, HasText fs file text ∧ RuleFile.compile ctx file text = .error e := by
  simp only [← exists_readRuleFile_eq_error_iff, ← readRuleFile_eq_ok_iff, ← outcome_eq_error_iff,
    outcome, bind_eq_error_iff]
  constructor
  · rintro ⟨e, h | ⟨text, ht, h⟩⟩
    · exact .inl ⟨e, h⟩
    · exact .inr ⟨text, e, ht, h⟩
  · rintro (⟨e, h⟩ | ⟨text, e, ht, h⟩)
    · exact ⟨e, .inl h⟩
    · exact ⟨e, .inr ⟨text, ht, h⟩⟩

/-- The files of a list that fail, each with its failure. -/
def failures (fs : FileSystem) (ctx : ParseContext) (files : List String) : List SkippedFile :=
  files.filterMap fun f =>
    match outcome fs ctx f with
    | .ok _ => none
    | .error e => some ⟨f, e⟩

theorem map_file_failures (fs : FileSystem) (ctx : ParseContext) (files : List String) :
    (failures fs ctx files).map SkippedFile.file =
      files.filter fun f => !(outcome fs ctx f).isOk := by
  unfold failures
  rw [List.map_filterMap, ← List.filterMap_eq_filter]
  congr 1
  funext f
  cases h : outcome fs ctx f <;> simp [Option.guard, h, Except.isOk, Except.toBool]

theorem mem_failures {fs : FileSystem} {ctx : ParseContext} {files : List String}
    {s : SkippedFile} (h : s ∈ failures fs ctx files) :
    s.file ∈ files ∧ Fails fs ctx s.file s.error := by
  obtain ⟨f, hf, hs⟩ := List.mem_filterMap.1 h
  cases ho : outcome fs ctx f with
  | ok set => simp [ho] at hs
  | error e =>
    simp only [ho, Option.some.injEq] at hs
    subst hs
    exact ⟨hf, outcome_eq_error_iff.1 ho⟩

/-! ## Steps -/

/-- What resolving comes across: a pattern that matches nothing, or a file. -/
inductive Step where
  | unmatched (pattern : String)
  | file (name : String)
  deriving DecidableEq

def Step.file? : Step → Option String
  | unmatched _ => none
  | file name => some name

/-- The steps of a pattern. A malformed pattern has none. -/
def stepsOf (fs : FileSystem) (p : RulePattern) : List Step :=
  match fs.glob p.text with
  | .error _ => []
  | .ok [] => [.unmatched p.text]
  | .ok files => files.map .file

def steps (fs : FileSystem) (patterns : List RulePattern) : List Step :=
  patterns.flatMap (stepsOf fs)

/-- What the patterns match, in order and with repeats. -/
def matched (fs : FileSystem) (patterns : List RulePattern) : List String :=
  patterns.flatMap fun p => (fs.glob p.text).toOption.getD []

theorem filterMap_steps (fs : FileSystem) (patterns : List RulePattern) :
    (steps fs patterns).filterMap Step.file? = matched fs patterns := by
  unfold steps matched
  rw [List.filterMap_flatMap]
  congr 1
  funext p
  unfold stepsOf
  split
  · next h => simp [h, Except.toOption]
  · next h => simp [h, Except.toOption, Step.file?]
  · next files _ h =>
    rw [h, List.filterMap_map]
    change files.filterMap some = files
    exact List.filterMap_some

theorem file_mem_steps_iff {fs : FileSystem} {patterns : List RulePattern} {file : String} :
    .file file ∈ steps fs patterns ↔ file ∈ matched fs patterns := by
  rw [← filterMap_steps, List.mem_filterMap]
  constructor
  · exact fun h => ⟨_, h, rfl⟩
  · rintro ⟨s, hs, hfile⟩
    cases s with
    | unmatched pattern => cases hfile
    | file name =>
      cases hfile
      exact hs

/-- Steps are a matter of what the patterns match. -/
theorem steps_congr {fs fs' : FileSystem} (h : fs.glob = fs'.glob) : steps fs = steps fs' := by
  have hof : stepsOf fs = stepsOf fs' := by
    funext p
    simp only [stepsOf, h]
  unfold steps
  rw [hof]

/-- Malformed patterns have no steps. -/
theorem steps_filter_isOk (fs : FileSystem) (patterns : List RulePattern) :
    steps fs (patterns.filter fun p => (fs.glob p.text).isOk) = steps fs patterns := by
  induction patterns with
  | nil => rfl
  | cons p ps ih =>
    unfold steps at ih ⊢
    rw [List.filter_cons]
    cases h : fs.glob p.text with
    | error e => simpa [stepsOf, h, Except.isOk, Except.toBool] using ih
    | ok files => simpa [Except.isOk, Except.toBool] using ih

theorem matched_filter_isOk (fs : FileSystem) (patterns : List RulePattern) :
    matched fs (patterns.filter fun p => (fs.glob p.text).isOk) = matched fs patterns := by
  rw [← filterMap_steps, steps_filter_isOk, filterMap_steps]

/-- A step stops the resolution: a pattern without a match always, a file when a condition of the
policy holds for its failure. -/
inductive Stops (fs : FileSystem) (ctx : ParseContext) (policy : FailurePolicy) :
    Step → CheckError → Prop
  | unmatched (pattern : String) :
      Stops fs ctx policy (.unmatched pattern) (.noMatchingFiles pattern)
  | fatal {file : String} {e : LoadError} {c : FailureCondition} :
      Fails fs ctx file e → c ∈ policy.conditions → c.holds e = true →
      Stops fs ctx policy (.file file) (.ruleLoad file e)

section Run

variable (fs : FileSystem) (ctx : ParseContext) (policy : FailurePolicy)

/-- Why the resolution stops at a step, if it does. -/
def stop? : Step → Option CheckError
  | .unmatched p => some (.noMatchingFiles p)
  | .file f =>
    match outcome fs ctx f with
    | .ok _ => none
    | .error e => if policy.isFatal e then some (.ruleLoad f e) else none

theorem stop?_eq_some_iff {s : Step} {e : CheckError} :
    stop? fs ctx policy s = some e ↔ Stops fs ctx policy s e := by
  constructor
  · intro h
    cases s with
    | unmatched p =>
      cases h
      exact .unmatched p
    | file f =>
      unfold stop? at h
      cases ho : outcome fs ctx f with
      | ok set => simp [ho] at h
      | error e' =>
        simp only [ho] at h
        split at h
        · next hfatal =>
          cases h
          obtain ⟨c, hc, hholds⟩ := List.any_eq_true.1 hfatal
          exact .fatal (outcome_eq_error_iff.1 ho) hc hholds
        · cases h
  · rintro (p | ⟨hfails, hc, hholds⟩)
    · rfl
    · have hfatal : policy.isFatal _ = true := List.any_eq_true.2 ⟨_, hc, hholds⟩
      simp only [stop?, outcome_eq_error_iff.2 hfails, hfatal, if_true]

theorem stop?_eq_none_iff {s : Step} :
    stop? fs ctx policy s = none ↔ ∀ e, ¬ Stops fs ctx policy s e := by
  simp only [← stop?_eq_some_iff, Option.eq_none_iff_forall_ne_some, ne_eq]

/-! ## The run over the steps -/

/-- Resolves one step. -/
def take {σ : Type} [RuleEngine σ] (r : Resolution σ) : Step → Except CheckError (Resolution σ)
  | .unmatched p => .error (.noMatchingFiles p)
  | .file f => addFile fs ctx policy r f

theorem addPattern_eq_foldlM {σ : Type} [RuleEngine σ] (r : Resolution σ) (p : RulePattern) :
    addPattern fs ctx policy r p = (stepsOf fs p).foldlM (take fs ctx policy) r := by
  unfold addPattern stepsOf
  cases fs.glob p.text with
  | error e => rfl
  | ok files =>
    cases files with
    | nil => rfl
    | cons f files =>
      rw [List.foldlM_map]
      rfl

theorem foldlM_addPattern {σ : Type} [RuleEngine σ] (patterns : List RulePattern)
    (r : Resolution σ) :
    patterns.foldlM (addPattern fs ctx policy) r =
      (steps fs patterns).foldlM (take fs ctx policy) r := by
  induction patterns generalizing r with
  | nil => rfl
  | cons p ps ih =>
    unfold steps
    rw [List.flatMap_cons, List.foldlM_append, List.foldlM_cons, addPattern_eq_foldlM]
    congr 1
    funext r'
    exact ih r'

/-- A resolution after some more files, none of which stops it. -/
def settle (r : Resolution LoadedRules) (files : List String) : Resolution LoadedRules where
  engine := ⟨r.engine.sets ++ files.filterMap fun f => (outcome fs ctx f).toOption⟩
  loaded := r.loaded ++ files.filter fun f => (outcome fs ctx f).isOk
  skipped := r.skipped ++ failures fs ctx files

theorem settle_nil (r : Resolution LoadedRules) : settle fs ctx r [] = r := by
  simp [settle, failures]

theorem settle_settle (r : Resolution LoadedRules) (files files' : List String) :
    settle fs ctx (settle fs ctx r files) files' = settle fs ctx r (files ++ files') := by
  simp [settle, failures]

/-- **One step.** A step either stops or settles the file that it is about. -/
theorem take_eq (r : Resolution LoadedRules) (s : Step) :
    take fs ctx policy r s =
      match stop? fs ctx policy s with
      | some e => .error e
      | none => .ok (settle fs ctx r s.file?.toList) := by
  cases s with
  | unmatched p => rfl
  | file f =>
    simp only [take, addFile, stop?, loadFile_eq]
    cases h : outcome fs ctx f with
    | ok set =>
      simp [settle, failures, h, Step.file?, Except.map, Except.isOk, Except.toBool,
        Except.toOption]
    | error e =>
      simp only [Except.map]
      split
      · rfl
      · simp [settle, failures, h, Step.file?, Except.isOk, Except.toBool, Except.toOption]

/-- **A run.** The first step that stops decides; without one every file is settled. -/
theorem foldlM_take (ss : List Step) (r : Resolution LoadedRules) :
    ss.foldlM (take fs ctx policy) r =
      match ss.findSome? (stop? fs ctx policy) with
      | some e => .error e
      | none => .ok (settle fs ctx r (ss.filterMap Step.file?)) := by
  induction ss generalizing r with
  | nil => exact congrArg Except.ok (settle_nil fs ctx r).symm
  | cons s ss ih =>
    rw [List.foldlM_cons, take_eq, List.findSome?_cons]
    cases stop? fs ctx policy s with
    | some e => rfl
    | none =>
      change ss.foldlM (take fs ctx policy) (settle fs ctx r s.file?.toList) = _
      rw [ih, settle_settle]
      cases h : s.file? <;> simp [h]

theorem resolve_eq (patterns : List RulePattern) (engine : LoadedRules) :
    resolve fs ctx policy patterns engine =
      match (steps fs patterns).findSome? (stop? fs ctx policy) with
      | some e => .error e
      | none => .ok (settle fs ctx ⟨engine, [], []⟩ (matched fs patterns)) := by
  unfold resolve
  rw [foldlM_addPattern, foldlM_take, filterMap_steps]

theorem resolve_eq_error_iff {patterns : List RulePattern} {engine : LoadedRules}
    {e : CheckError} :
    resolve fs ctx policy patterns engine = .error e ↔
      (steps fs patterns).findSome? (stop? fs ctx policy) = some e := by
  rw [resolve_eq]
  cases (steps fs patterns).findSome? (stop? fs ctx policy) <;> simp

theorem resolve_eq_ok_iff {patterns : List RulePattern} {engine : LoadedRules}
    {r : Resolution LoadedRules} :
    resolve fs ctx policy patterns engine = .ok r ↔
      (∀ s ∈ steps fs patterns, stop? fs ctx policy s = none) ∧
        r = settle fs ctx ⟨engine, [], []⟩ (matched fs patterns) := by
  rw [resolve_eq, ← List.findSome?_eq_none_iff]
  cases (steps fs patterns).findSome? (stop? fs ctx policy) <;> simp [eq_comm]

end Run

/-! ## What never reaches an engine -/

/-- Resolving asks an engine only for the texts of files that can be read. -/
theorem resolve_congr {σ : Type} (i j : RuleEngine σ) {fs : FileSystem} {ctx : ParseContext}
    (h : ∀ l file text, HasText fs file text →
      i.load l ctx file text = j.load l ctx file text)
    (policy : FailurePolicy) (patterns : List RulePattern) (engine : σ) :
    @resolve σ i fs ctx policy patterns engine = @resolve σ j fs ctx policy patterns engine := by
  have hload : @loadFile σ i fs ctx = @loadFile σ j fs ctx := by
    funext l file
    unfold loadFile
    cases hr : readRuleFile fs file with
    | error e => rfl
    | ok text => exact h l file text (readRuleFile_eq_ok_iff.1 hr)
  have hadd : @addFile σ i fs ctx policy = @addFile σ j fs ctx policy := by
    funext r file
    unfold addFile
    rw [hload]
  unfold resolve addPattern
  rw [hadd]

/-! ## The specification -/

/-- Files split into those with rules, with their rule sets beside them, and those without, with
what keeps them from having any; each in order and with repeats. -/
inductive Split (fs : FileSystem) (ctx : ParseContext) :
    List String → List String → List RuleSet → List SkippedFile → Prop
  | nil : Split fs ctx [] [] [] []
  | loaded {f : String} {set : RuleSet} {files loaded : List String} {sets : List RuleSet}
      {skipped : List SkippedFile} : Gives fs ctx f set → Split fs ctx files loaded sets skipped →
      Split fs ctx (f :: files) (f :: loaded) (set :: sets) skipped
  | skipped {f : String} {e : LoadError} {files loaded : List String} {sets : List RuleSet}
      {skipped : List SkippedFile} : Fails fs ctx f e → Split fs ctx files loaded sets skipped →
      Split fs ctx (f :: files) loaded sets (⟨f, e⟩ :: skipped)

/-- What is left when files are resolved and none stops the resolution. An engine is left if any
file has rules, and it has taken in just these. -/
structure Settled (fs : FileSystem) (ctx : ParseContext) (engine : LoadedRules)
    (files : List String) (r : Resolution LoadedRules) : Prop where
  split : ∃ sets, Split fs ctx files r.loaded sets r.skipped ∧
    r.engine? = if r.loaded = [] then none else some ⟨engine.sets ++ sets⟩
  mem_skipped : ∀ f, f ∈ r.skipped.map SkippedFile.file ↔ f ∈ files ∧ (Unreadable fs f ∨
    ∃ text e, HasText fs f text ∧ RuleFile.compile ctx f text = .error e)
  cause : ∀ s ∈ r.skipped, Fails fs ctx s.file s.error ∧ s.error.file = s.file

/-- Files split as they come to rules or not. -/
theorem split_outcome (fs : FileSystem) (ctx : ParseContext) (files : List String) :
    Split fs ctx files (files.filter fun f => (outcome fs ctx f).isOk)
      (files.filterMap fun f => (outcome fs ctx f).toOption) (failures fs ctx files) := by
  induction files with
  | nil => exact .nil
  | cons f files ih =>
    unfold failures at ih ⊢
    rw [List.filter_cons, List.filterMap_cons, List.filterMap_cons]
    cases ho : outcome fs ctx f with
    | ok set => exact .loaded (outcome_eq_ok_iff.1 ho) ih
    | error e => exact .skipped (outcome_eq_error_iff.1 ho) ih

/-- Files split in one way only. -/
theorem Split.unique {fs : FileSystem} {ctx : ParseContext} {files loaded loaded' : List String}
    {sets sets' : List RuleSet} {skipped skipped' : List SkippedFile}
    (h : Split fs ctx files loaded sets skipped) (h' : Split fs ctx files loaded' sets' skipped') :
    loaded = loaded' ∧ sets = sets' ∧ skipped = skipped' := by
  induction h generalizing loaded' sets' skipped' with
  | nil =>
    cases h'
    exact ⟨rfl, rfl, rfl⟩
  | loaded hgives _ ih =>
    have ho := outcome_eq_ok_iff.2 hgives
    cases h' with
    | loaded hgives' hrest =>
      cases ho.symm.trans (outcome_eq_ok_iff.2 hgives')
      obtain ⟨rfl, rfl, rfl⟩ := ih hrest
      exact ⟨rfl, rfl, rfl⟩
    | skipped hfails' _ => cases ho.symm.trans (outcome_eq_error_iff.2 hfails')
  | skipped hfails _ ih =>
    have ho := outcome_eq_error_iff.2 hfails
    cases h' with
    | loaded hgives' _ => cases ho.symm.trans (outcome_eq_ok_iff.2 hgives')
    | skipped hfails' hrest =>
      cases ho.symm.trans (outcome_eq_error_iff.2 hfails')
      obtain ⟨rfl, rfl, rfl⟩ := ih hrest
      exact ⟨rfl, rfl, rfl⟩

theorem settled_settle (fs : FileSystem) (ctx : ParseContext) (engine : LoadedRules)
    (files : List String) : Settled fs ctx engine files (settle fs ctx ⟨engine, [], []⟩ files) := by
  refine ⟨⟨_, split_outcome fs ctx files, by simp [engine?, settle]⟩, fun f => ?_, fun s hs => ?_⟩
  · change f ∈ (failures fs ctx files).map SkippedFile.file ↔ _
    rw [map_file_failures, List.mem_filter, not_isOk_iff, ← exists_fails_iff]
    simp only [outcome_eq_error_iff]
  · have hfails := (mem_failures hs).2
    exact ⟨hfails, hfails.file_eq⟩

/-- **The first stop decides.** Resolving fails with a cause exactly when the first step that stops
has that cause. When no step stops, the files that the patterns match are settled. Malformed
patterns make no difference, and neither does what an engine would do with a file that cannot be
read. -/
theorem resolve_first_stop (fs : FileSystem) (ctx : ParseContext) (policy : FailurePolicy)
    (patterns : List RulePattern) (engine : LoadedRules) :
    (∀ e, resolve fs ctx policy patterns engine = .error e ↔
      ∃ before s after, steps fs patterns = before ++ s :: after ∧
        (∀ t ∈ before, ∀ e', ¬ Stops fs ctx policy t e') ∧ Stops fs ctx policy s e) ∧
    ((∀ s ∈ steps fs patterns, ∀ e, ¬ Stops fs ctx policy s e) →
      ∃ r, resolve fs ctx policy patterns engine = .ok r ∧
        Settled fs ctx engine (matched fs patterns) r) ∧
    resolve fs ctx policy (patterns.filter fun p => (fs.glob p.text).isOk) engine =
      resolve fs ctx policy patterns engine ∧
    ∀ load : LoadedRules → ParseContext → String → String → Except LoadError LoadedRules,
      (∀ l file text, HasText fs file text →
        load l ctx file text = LoadedRules.load l ctx file text) →
      @resolve LoadedRules ⟨load, LoadedRules.run⟩ fs ctx policy patterns engine =
        resolve fs ctx policy patterns engine := by
  refine ⟨fun e => ?_, fun h => ?_, ?_, fun load h => ?_⟩
  · rw [resolve_eq_error_iff, List.findSome?_eq_some_iff]
    simp only [stop?_eq_some_iff, stop?_eq_none_iff]
    constructor
    · rintro ⟨before, s, after, hsplit, hs, hbefore⟩
      exact ⟨before, s, after, hsplit, hbefore, hs⟩
    · rintro ⟨before, s, after, hsplit, hbefore, hs⟩
      exact ⟨before, s, after, hsplit, hs, hbefore⟩
  · refine ⟨_, (resolve_eq_ok_iff fs ctx policy).2 ⟨?_, rfl⟩, settled_settle fs ctx engine _⟩
    intro s hs
    exact (stop?_eq_none_iff fs ctx policy).2 (h s hs)
  · rw [resolve_eq, resolve_eq, steps_filter_isOk, matched_filter_isOk]
  · exact resolve_congr ⟨load, LoadedRules.run⟩ inferInstance h policy patterns engine

/-- In memory: a file with one rule, one that is not well formed, and one that is no text. -/
def mixedFiles : MemoryFiles :=
  (((MemoryFiles.empty "/").add "good"
    "[[rules]]\nname='r'\nmatch.kind='k'\nreport.message='m'".toUTF8).add "bad" "[".toUTF8).add
    "latin" ⟨#[0xFF]⟩

/-- The rules of `good`. -/
def goodSet : RuleSet :=
  ⟨"good", none, [⟨"r", "r", none, ⟨some ["k"], none, none, none, none, none⟩, ⟨[.literal "m"]⟩⟩]⟩

theorem gives_good : Gives mixedFiles.toFileSystem {} "good" goodSet := by
  refine ⟨"[[rules]]\nname='r'\nmatch.kind='k'\nreport.message='m'", ⟨⟨.file 52, ?_, ?_⟩, ?_⟩, ?_⟩
  · decide +kernel
  · decide
  · decide +kernel
  · decide +kernel

/-- The file that is not well formed does not compile, and the one that is no text is unreadable. A
pattern without a match stops the resolution under any policy, and a bad file if that is fatal. -/
theorem resolve_first_stop_mixed :
    let fs := mixedFiles.toFileSystem
    let patterns := [RulePattern.mk "[", ⟨"*"⟩, ⟨"good"⟩]
    ∃ bad latin, bad.file = "bad" ∧ latin.file = "latin" ∧
      (∃ r, resolve fs {} .lenient patterns ({} : LoadedRules) = .ok r ∧
        r.loaded = ["good", "good"] ∧ r.skipped = [⟨"bad", bad⟩, ⟨"latin", latin⟩] ∧
        r.engine? = some ⟨[goodSet, goodSet]⟩) ∧
      resolve fs {} .lenient (patterns ++ [⟨"gone"⟩]) ({} : LoadedRules) =
        .error (.noMatchingFiles "gone") ∧
      resolve fs {} (.ofConditions [.dsl]) (patterns ++ [⟨"gone"⟩]) ({} : LoadedRules) =
        .error (.ruleLoad "bad" bad) := by
  intro fs patterns
  have hcompile : (RuleFile.compile {} "bad" "[").mapError LoadError.isImport = .error false := by
    decide +kernel
  obtain ⟨bad, hbad, himport⟩ := mapError_eq_error_iff.1 hcompile
  have hbad : Fails fs {} "bad" bad :=
    .faulty ⟨⟨.file 1, by decide +kernel, by decide⟩, by decide +kernel⟩ hbad
  have hread : (!(fs.read "latin").isOk) = true := by decide +kernel
  obtain ⟨io, hio⟩ := not_isOk_iff.1 hread
  have hlatin : Fails fs {} "latin" (.readFailed "latin" io) :=
    .textless (by decide +kernel : fs.metadata "latin" = .ok (.file 1)) (by decide) hio
  have hsteps : steps fs patterns = [.file "bad", .file "good", .file "latin", .file "good"] := by
    decide +kernel
  have hsteps' : steps fs (patterns ++ [⟨"gone"⟩]) =
      [.file "bad", .file "good", .file "latin", .file "good"] ++ .unmatched "gone" :: [] := by
    decide +kernel
  have hmatched : matched fs patterns = ["bad", "good", "latin", "good"] := by decide +kernel
  -- Under the empty policy no file stops the resolution.
  have hgoesOn : ∀ s ∈ ([.file "bad", .file "good", .file "latin", .file "good"] : List Step),
      ∀ e, ¬ Stops fs {} .lenient s e := by
    intro s hs e hstops
    cases hstops with
    | unmatched pattern => exact absurd hs (by simp)
    | fatal _ hc _ => exact List.not_mem_nil hc
  refine ⟨bad, _, hbad.file_eq, hlatin.file_eq, ?_, ?_, ?_⟩
  · obtain ⟨-, hsettles, -⟩ := resolve_first_stop fs {} .lenient patterns {}
    obtain ⟨r, hr, hsettled⟩ := hsettles (hsteps ▸ hgoesOn)
    obtain ⟨sets, hsplit, hengine⟩ := hsettled.split
    rw [hmatched] at hsplit
    obtain ⟨hloaded, rfl, hskipped⟩ := hsplit.unique
      (.skipped hbad (.loaded gives_good (.skipped hlatin (.loaded gives_good .nil))))
    rw [hloaded] at hengine
    exact ⟨r, hr, hloaded, hskipped, hengine⟩
  · obtain ⟨hfails, -⟩ := resolve_first_stop fs {} .lenient (patterns ++ [⟨"gone"⟩]) {}
    exact (hfails _).2 ⟨_, _, _, hsteps', hgoesOn, .unmatched "gone"⟩
  · obtain ⟨hfails, -⟩ :=
      resolve_first_stop fs {} (.ofConditions [.dsl]) (patterns ++ [⟨"gone"⟩]) {}
    refine (hfails _).2 ⟨[], _, _, hsteps', fun _ h => absurd h List.not_mem_nil, ?_⟩
    exact .fatal hbad (by decide : FailureCondition.dsl ∈ _)
      (by simp [FailureCondition.holds, himport])

end Resolution

end Rulebook
