import Rulebook.Proofs.FreshEngine
import Rulebook.Proofs.StoredFiles

/-!
# Files that are left out

A file that is left out might as well be empty.

**Theorem (`walk_emptied_skipped`).** Where files in memory resolve, let every file that was left
out hold the empty text instead. Then all files that the patterns match are loaded, and no checker
tells the two apart: it gives the same diagnostics and the same trace for every unit.

The proof compares what one file comes to before and after (`outcome_emptied`). Patterns match as
before, since the names stay. A file is loaded or left out for what it holds, under whichever path
it is matched (`outcome_eq_ok_of_key_eq`), so emptying those that are left out touches no file that
is loaded. An empty file is a rule file without rules, and a run passes over those (`run_congr`).
-/

namespace Rulebook

namespace RuleFile

/-- The empty text is a rule file without rules. -/
theorem compile_empty (ctx : ParseContext) (file : String) :
    compile ctx file "" = .ok ⟨file, none, []⟩ := by
  have hd : Toml.decode RuleFile.ofData "" = .ok {} := by decide +kernel
  exact compile_eq_ok_iff.2 ⟨{}, [], hd, fun p hp => absurd hp List.not_mem_nil, rfl, rfl⟩

/-- A text compiles or not under whatever name it goes by. -/
theorem compile_rename {ctx : ParseContext} {file file' content : String} {set : RuleSet}
    (h : compile ctx file content = .ok set) :
    compile ctx file' content = .ok { set with file := file' } := by
  obtain ⟨parsed, rules, hd, himports, hrules, rfl⟩ := compile_eq_ok_iff.1 h
  exact compile_eq_ok_iff.2 ⟨parsed, rules, hd, himports, hrules, rfl⟩

end RuleFile

namespace LoadedRules

/-- The rules of rule sets, each with the file that it is from. -/
def placed (sets : List RuleSet) : List (String × Rule) :=
  sets.flatMap fun set => set.rules.map fun rule => (set.file, rule)

theorem visits_eq (l : LoadedRules) (unit : SourceUnit) :
    l.visits unit = unit.nodes.toList.flatMap fun node =>
      (placed l.sets).map fun r => ⟨node, r.1, r.2⟩ := by
  simp only [visits, placed, List.map_flatMap, List.map_map, Function.comp_def]

/-- A run depends on the rules and their files; a rule set without rules leaves no trace in it. -/
theorem run_congr {l l' : LoadedRules} (h : placed l.sets = placed l'.sets) (ctx : RunContext)
    (unit : SourceUnit) : l.run ctx unit = l'.run ctx unit := by
  simp only [run, visits_eq, h]

end LoadedRules

namespace Resolution

/-! ## One file -/

section File

variable {m : MemoryFiles} {ctx : ParseContext} {file : String}

theorem hasText_memory_iff {text : String} :
    HasText m.toFileSystem file text ↔ ∃ bytes, m.content? (m.key file) = some bytes ∧
      bytes.size ≤ 1024 * 1024 ∧ Text.decodeUtf8 bytes = .ok text := by
  constructor
  · rintro ⟨⟨metadata, hmetadata, hsize⟩, hread⟩
    obtain ⟨bytes, hbytes, htext⟩ := MemoryFiles.read_eq_ok_iff.1 hread
    cases hmetadata.symm.trans (congrArg Except.ok (m.metadata_of_content? hbytes))
    exact ⟨bytes, hbytes, hsize, htext⟩
  · rintro ⟨bytes, hbytes, hsize, htext⟩
    exact ⟨⟨_, congrArg Except.ok (m.metadata_of_content? hbytes), hsize⟩,
      MemoryFiles.read_eq_ok_iff.2 ⟨bytes, hbytes, htext⟩⟩

/-- Files in memory load for what they hold. -/
theorem outcome_memory_eq_ok_iff {set : RuleSet} :
    outcome m.toFileSystem ctx file = .ok set ↔ ∃ bytes text,
      m.content? (m.key file) = some bytes ∧ bytes.size ≤ 1024 * 1024 ∧
      Text.decodeUtf8 bytes = .ok text ∧ RuleFile.compile ctx file text = .ok set := by
  simp only [outcome_eq_ok_iff, Gives, hasText_memory_iff]
  constructor
  · rintro ⟨text, ⟨bytes, hbytes, hsize, htext⟩, hset⟩
    exact ⟨bytes, text, hbytes, hsize, htext, hset⟩
  · rintro ⟨bytes, text, hbytes, hsize, htext, hset⟩
    exact ⟨text, ⟨bytes, hbytes, hsize, htext⟩, hset⟩

/-- Whether a file is loaded does not depend on the path that leads to it. -/
theorem outcome_eq_ok_of_key_eq {file' : String} (h : m.key file = m.key file') {set : RuleSet}
    (hset : outcome m.toFileSystem ctx file = .ok set) :
    outcome m.toFileSystem ctx file' = .ok { set with file := file' } := by
  obtain ⟨bytes, text, hbytes, hsize, htext, hcompile⟩ := outcome_memory_eq_ok_iff.1 hset
  exact outcome_memory_eq_ok_iff.2
    ⟨bytes, text, h ▸ hbytes, hsize, htext, RuleFile.compile_rename hcompile⟩

end File

/-! ## All files -/

section Files

variable {m : MemoryFiles} {ctx : ParseContext} {files : List String}

/-- What a file comes to when it holds the empty text if it has no rules. -/
def outcomeOrEmpty (fs : FileSystem) (ctx : ParseContext) (file : String) : RuleSet :=
  match outcome fs ctx file with
  | .ok set => set
  | .error _ => ⟨file, none, []⟩

/-- **Emptying what is left out** makes rule files without rules of that, and touches nothing
else. -/
theorem outcome_emptied {file : String} (hfile : file ∈ files) :
    outcome (m.emptied ((failures m.toFileSystem ctx files).map SkippedFile.file)).toFileSystem ctx
      file = .ok (outcomeOrEmpty m.toFileSystem ctx file) := by
  rw [map_file_failures]
  unfold outcomeOrEmpty
  rw [outcome_memory_eq_ok_iff, MemoryFiles.key_emptied, MemoryFiles.content?_emptied]
  cases ho : outcome m.toFileSystem ctx file with
  | error e =>
    have hmem : file ∈ files.filter fun f => !(outcome m.toFileSystem ctx f).isOk :=
      List.mem_filter.2 ⟨hfile, not_isOk_iff.2 ⟨e, ho⟩⟩
    rw [if_pos (List.mem_map_of_mem hmem)]
    exact ⟨_, "", rfl, Nat.zero_le _, rfl, RuleFile.compile_empty ctx file⟩
  | ok set =>
    have hnot : m.key file ∉
        (files.filter fun f => !(outcome m.toFileSystem ctx f).isOk).map m.key := by
      intro hmem
      obtain ⟨file', hfile', hkey⟩ := List.mem_map.1 hmem
      obtain ⟨e, he⟩ := not_isOk_iff.1 (List.mem_filter.1 hfile').2
      cases he.symm.trans (outcome_eq_ok_of_key_eq hkey.symm ho)
    rw [if_neg hnot]
    exact outcome_memory_eq_ok_iff.1 ho

theorem ruleSets_of_outcome_eq_ok {fs fs' : FileSystem}
    (h : ∀ f ∈ files, outcome fs' ctx f = .ok (outcomeOrEmpty fs ctx f)) :
    ruleSets fs' ctx files = files.map (outcomeOrEmpty fs ctx) := by
  unfold ruleSets
  rw [← List.filterMap_eq_map]
  refine List.filterMap_congr fun f hf => ?_
  rw [h f hf]
  rfl

/-- The files without rules add nothing. -/
theorem placed_map_outcomeOrEmpty (fs : FileSystem) (ctx : ParseContext) (files : List String) :
    LoadedRules.placed (files.map (outcomeOrEmpty fs ctx)) =
      LoadedRules.placed (ruleSets fs ctx files) := by
  unfold LoadedRules.placed ruleSets
  induction files with
  | nil => rfl
  | cons f files ih =>
    rw [List.map_cons, List.flatMap_cons, ih, List.filterMap_cons]
    unfold outcomeOrEmpty
    cases outcome fs ctx f <;> rfl

/-- Checkers on fresh engines with the same rules from the same files do the same. -/
theorem walk_fresh_congr {fs fs' : FileSystem} {files files' : List String}
    (h : LoadedRules.placed (ruleSets fs ctx files) = LoadedRules.placed (ruleSets fs' ctx files'))
    (debug : Option String) (order : FindingOrder) (uctx : UnitContext) (unit : SourceUnit) :
    (RuleChecker.mk (fresh fs ctx files).engine? debug order).walk uctx unit =
      (RuleChecker.mk (fresh fs' ctx files').engine? debug order).walk uctx unit := by
  unfold RuleChecker.walk
  rw [checkUnit_fresh, checkUnit_fresh]
  have hrun (rctx : RunContext) : (fresh fs ctx files).engine.run rctx unit =
      (fresh fs' ctx files').engine.run rctx unit := LoadedRules.run_congr h rctx unit
  simp only [RuleChecker.checkUnit, RuleEngine.run, hrun]

theorem key_mem_of_matched (hm : m.Named) {patterns : List RulePattern} {file : String}
    (h : file ∈ matched m.toFileSystem patterns) : m.key file ∈ m.files.keys := by
  obtain ⟨p, -, hfile⟩ := List.mem_flatMap.1 h
  cases hglob : m.toFileSystem.glob p.text with
  | error e => simp [hglob, Except.toOption] at hfile
  | ok paths =>
    rw [hglob] at hfile
    exact hm.key_mem_of_glob hglob hfile

/-- When every file has rules, none is left out. -/
theorem fresh_eq_of_outcome_eq_ok {fs : FileSystem} {set : String → RuleSet}
    (h : ∀ f ∈ files, outcome fs ctx f = .ok (set f)) :
    (fresh fs ctx files).loaded = files ∧ (fresh fs ctx files).skipped = [] := by
  constructor
  · change files.filter (fun f => (outcome fs ctx f).isOk) = files
    refine List.filter_eq_self.2 fun f hf => ?_
    rw [h f hf]
    rfl
  · change failures fs ctx files = []
    refine List.filterMap_eq_nil_iff.2 fun f hf => ?_
    simp only [h f hf]

/-- **What is left out leaves nothing behind.** Where files in memory resolve, they also resolve
when each file that was left out holds the empty text instead. Then every file that the patterns
match is loaded, and whatever is asked of a checker, the diagnostics come in the same order and the
trace has the same lines. -/
theorem walk_emptied_skipped (root : String) (edits : List MemoryFiles.Edit) (ctx : ParseContext)
    (policy : FailurePolicy) (patterns : List RulePattern) {r : Resolution LoadedRules}
    (hr : resolve (MemoryFiles.edited root edits).toFileSystem ctx policy patterns
      ({} : LoadedRules) = .ok r) :
    let m := MemoryFiles.edited root edits
    let m' := m.emptied (r.skipped.map SkippedFile.file)
    m'.files.keys = m.files.keys ∧
    ∃ r', resolve m'.toFileSystem ctx policy patterns ({} : LoadedRules) = .ok r' ∧
      r'.skipped = [] ∧ r'.loaded = matched m.toFileSystem patterns ∧
      ∀ debug order uctx unit,
        (RuleChecker.mk r'.engine? debug order).walk uctx unit =
          (RuleChecker.mk r.engine? debug order).walk uctx unit := by
  intro m m'
  obtain ⟨hgo, rfl⟩ := (resolve_eq_ok_iff _ ctx policy).1 hr
  let files := matched m.toFileSystem patterns
  -- Only matched files are emptied, and those are there: no name is new.
  have hskipped : ∀ f ∈ (failures m.toFileSystem ctx files).map SkippedFile.file, f ∈ files := by
    intro f hf
    obtain ⟨s, hs, rfl⟩ := List.mem_map.1 hf
    exact (mem_failures hs).1
  have hkeys : m'.files.keys = m.files.keys := MemoryFiles.keys_emptied fun f hf =>
    key_mem_of_matched (MemoryFiles.named_edited root edits) (hskipped f hf)
  have hglob : m'.toFileSystem.glob = m.toFileSystem.glob :=
    MemoryFiles.glob_congr (MemoryFiles.root_emptied ..) hkeys
  have hsteps : steps m'.toFileSystem patterns = steps m.toFileSystem patterns :=
    congrFun (steps_congr hglob) patterns
  have hmatched : matched m'.toFileSystem patterns = files := by
    rw [← filterMap_steps, hsteps, filterMap_steps]
  have houtcome : ∀ f ∈ files,
      outcome m'.toFileSystem ctx f = .ok (outcomeOrEmpty m.toFileSystem ctx f) :=
    fun f hf => outcome_emptied hf
  have hgo' : ∀ s ∈ steps m'.toFileSystem patterns, stop? m'.toFileSystem ctx policy s = none := by
    rw [hsteps]
    intro s hs
    cases s with
    | unmatched p => exact absurd (hgo _ hs) (by simp [stop?])
    | file f => simp only [stop?, houtcome f (file_mem_steps_iff.1 hs)]
  obtain ⟨hloaded', hskipped'⟩ := fresh_eq_of_outcome_eq_ok houtcome
  refine ⟨hkeys, fresh m'.toFileSystem ctx files, ?_, hskipped', hloaded', ?_⟩
  · refine (resolve_eq_ok_iff _ ctx policy).2 ⟨hgo', ?_⟩
    rw [hmatched]
    rfl
  · intro debug order uctx unit
    refine walk_fresh_congr ?_ debug order uctx unit
    rw [ruleSets_of_outcome_eq_ok houtcome, placed_map_outcomeOrEmpty]

/-- An empty file and one that is not TOML: the latter is left out, and loaded once it is empty. -/
theorem walk_emptied_skipped_pair :
    let m := MemoryFiles.edited "/" [.add "a" "".toUTF8, .add "b" "x".toUTF8]
    ∃ r r', resolve m.toFileSystem {} .lenient [⟨"/*"⟩] ({} : LoadedRules) = .ok r ∧
      r.loaded = ["/a"] ∧ r.skipped.map SkippedFile.file = ["/b"] ∧
      resolve (m.emptied ["/b"]).toFileSystem {} .lenient [⟨"/*"⟩] ({} : LoadedRules) = .ok r' ∧
      r'.skipped = [] ∧ r'.loaded = ["/a", "/b"] := by
  intro m
  have hresult : (resolve m.toFileSystem {} .lenient [⟨"/*"⟩] ({} : LoadedRules)).map
      (fun r => (r.loaded, r.skipped.map SkippedFile.file)) = .ok (["/a"], ["/b"]) := by
    decide +kernel
  have hmatched : matched m.toFileSystem [⟨"/*"⟩] = ["/a", "/b"] := by decide +kernel
  obtain ⟨r, hr, hfiles⟩ := map_eq_ok_iff.1 hresult
  obtain ⟨hloaded, hskipped⟩ := Prod.mk.inj hfiles
  obtain ⟨-, r', hr', hskipped', hloaded', -⟩ := walk_emptied_skipped "/" _ {} .lenient _ hr
  rw [hskipped] at hr'
  exact ⟨r, r', hr, hloaded, hskipped, hr', hskipped', hloaded'.trans hmatched⟩

end Files

end Resolution

end Rulebook
