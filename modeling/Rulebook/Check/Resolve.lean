import Rulebook.Check.Settings

/-!
# Resolving rule files

Patterns are expanded from left to right, and the files that each matches are loaded in the order in
which the file system lists them. A pattern that matches nothing is always fatal, one that breaks
the rules of its notation is passed over, and a file that fails is fatal or left out as the failure
policy says.
-/

namespace Rulebook

/-- The greatest size of a rule file in bytes. -/
def maxRuleFileSize : Nat := 1024 * 1024

/-- A file that is left out, and why. -/
structure SkippedFile where
  file : String
  error : LoadError
  deriving Repr, DecidableEq

/-- What has been resolved: the engine with the files that it has taken in, and the others. -/
structure Resolution (σ : Type) where
  engine : σ
  loaded : List String := []
  skipped : List SkippedFile := []
  deriving DecidableEq

namespace Resolution

variable {σ : Type} [RuleEngine σ]

/-- The engine, unless it has taken in nothing. -/
def engine? (r : Resolution σ) : Option σ := if r.loaded.isEmpty then none else some r.engine

/-- The text of a rule file. The size is looked at before the file is read. -/
def readRuleFile (fs : FileSystem) (file : String) : Except LoadError String := do
  let metadata ← (fs.metadata file).mapError (.readFailed file)
  if maxRuleFileSize < metadata.size then
    .error (.readFailed file ⟨.invalidData,
      s!"rule file is {metadata.size} bytes, the limit is {maxRuleFileSize} bytes"⟩)
  else (fs.read file).mapError (.readFailed file)

/-- Reads a file and hands it to an engine. -/
def loadFile (fs : FileSystem) (ctx : ParseContext) (engine : σ) (file : String) :
    Except LoadError σ := do
  RuleEngine.load engine ctx file (← readRuleFile fs file)

/-- Resolves a file. -/
def addFile (fs : FileSystem) (ctx : ParseContext) (policy : FailurePolicy) (r : Resolution σ)
    (file : String) : Except CheckError (Resolution σ) :=
  match loadFile fs ctx r.engine file with
  | .ok engine => .ok { r with engine := engine, loaded := r.loaded ++ [file] }
  | .error e =>
    if policy.isFatal e then .error (.ruleLoad file e)
    else .ok { r with skipped := r.skipped ++ [⟨file, e⟩] }

/-- Resolves a pattern. -/
def addPattern (fs : FileSystem) (ctx : ParseContext) (policy : FailurePolicy) (r : Resolution σ)
    (p : RulePattern) : Except CheckError (Resolution σ) :=
  match fs.glob p.text with
  | .error _ => .ok r
  | .ok [] => .error (.noMatchingFiles p.text)
  | .ok files => files.foldlM (addFile fs ctx policy) r

/-- Resolves patterns, starting from an engine. -/
def resolve (fs : FileSystem) (ctx : ParseContext) (policy : FailurePolicy)
    (patterns : List RulePattern) (engine : σ) : Except CheckError (Resolution σ) :=
  patterns.foldlM (addPattern fs ctx policy) ⟨engine, [], []⟩

end Resolution

end Rulebook
