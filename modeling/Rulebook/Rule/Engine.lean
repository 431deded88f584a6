import Rulebook.Diagnostic
import Rulebook.Files.Basic
import Rulebook.Unit.Context

/-!
# Rule engines

An engine takes in rule files one by one and runs what it has taken in over units. The checks know
an engine by this interface alone.
-/

namespace Rulebook

/-- The packages that rule files may import. -/
structure ParseContext where
  importable : SortedSet String := ∅
  deriving DecidableEq, Inhabited

def ParseContext.canImport (ctx : ParseContext) (package : String) : Bool :=
  ctx.importable.contains package

/-- Why a rule file is not taken in. -/
inductive LoadError where
  /-- It imports a package that may not be imported. -/
  | importFailed (file package : String)
  /-- Its text is at fault. -/
  | dsl (file : String) (line : Option Nat) (message : String)
  /-- It cannot be read. -/
  | readFailed (file : String) (cause : IoError)
  deriving Repr, DecidableEq

namespace LoadError

def file : LoadError → String
  | importFailed file _ | dsl file _ _ | readFailed file _ => file

def isImport : LoadError → Bool
  | importFailed .. => true
  | _ => false

def message : LoadError → String
  | importFailed file package => s!"{file}: import \"{package}\": package cannot be loaded"
  | dsl file none message => s!"{file}: {message}"
  | dsl file (some line) message => s!"{file}:{line}: {message}"
  | readFailed file cause => s!"failed to read {file}: {cause.message}"

end LoadError

/-- What a run gives: findings, the text of an error if the run was cut short, and the lines in
which the rules of the traced group account for their decisions. -/
structure RunOutput where
  findings : List Finding := []
  error : Option String := none
  trace : List String := []
  deriving Repr, DecidableEq, Inhabited

/-- What every engine can do. A file that is not taken in leaves no mark. -/
class RuleEngine (σ : Type) where
  load : σ → ParseContext → String → String → Except LoadError σ
  run : σ → RunContext → SourceUnit → RunOutput

end Rulebook
