import Rulebook.Check.Config
import Rulebook.Check.Outcome
import Rulebook.Check.Registry
import Rulebook.Rule.Loaded
import Rulebook.Unit.Dump

/-!
# Running a check

A check finds the configuration, sets up the rule checker, and has it go over the units that were
asked for. Any unit that cannot be read makes the whole check fail.
-/

namespace Rulebook

/-- What is asked for: the dumps of units, a configuration file if one is named, and parameters. -/
structure CheckOptions where
  units : List String := []
  config : Option String := none
  overrides : Overrides := {}
  deriving Repr, DecidableEq, Inhabited

/-- Why a check fails. -/
inductive CheckFailure where
  | root (path : String) (cause : IoError)
  | config (cause : ConfigError)
  | setup (cause : RegistryError)
  | unreadable (dump : String) (cause : IoError)
  | malformed (dump : String) (fault : Fault)
  deriving Repr, DecidableEq

namespace CheckFailure

/-- What was being done when the check failed. A malformed dump speaks for itself. -/
def context? : CheckFailure → Option String
  | root path _ => some ("Failed to open project root " ++ path)
  | config _ => some "Failed to load configuration"
  | setup _ => some "Failed to set up the rule checker"
  | unreadable dump _ => some ("Failed to read unit dump " ++ dump)
  | malformed _ _ => none

/-- The headline of the failure. -/
def message (f : CheckFailure) : String := f.context?.getD "JSON parse error"

end CheckFailure

/-- The registry with every checker there is. -/
def Registry.shipped (fs : FileSystem) (ctx : ParseContext) : Registry :=
  ⟨[RuleChecker.registered fs ctx ({} : LoadedRules)]⟩

/-- A check: the lines of the trace, and the outcome. -/
structure CheckRun where
  trace : List String := []
  result : Except CheckFailure CheckOutcome

namespace CheckRun

/-- Checks the unit of a dump. -/
def checkDump (fs : FileSystem) (checker : Checker) (dump : String) :
    Except CheckFailure (UnitResult × List String) := do
  let text ← (fs.read dump).mapError (.unreadable dump)
  let file ← (UnitFile.parse text).mapError (.malformed dump)
  let walk := checker.walk file.context file.unit
  let report (d : Diagnostic) : ReportedDiagnostic :=
    ⟨d, d.span.map fun s => file.context.lines.position s.start.toNat⟩
  return (⟨dump.toUTF8, walk.diagnostics.map report⟩, walk.trace)

/-- The configuration in force. -/
def configOf (fs : FileSystem) (env : Option String) (o : CheckOptions) :
    Except ConfigError Config := do
  let config ← match o.config with
    | some path => Config.load fs path
    | none => Prod.snd <$> Config.discover fs (Config.explicitPath env)
  return config.override o.overrides

/-- The rule checker, set up for a check. -/
def checkerOf (fs : FileSystem) (env : Option String) (o : CheckOptions) :
    Except CheckFailure Checker := do
  let config ← (configOf fs env o).mapError .config
  let registry := Registry.shipped fs config.parseContext
  (registry.build RuleChecker.checkerName config.params).mapError .setup

/-- Goes over the units in turn. The trace is that of the units before the first that fails. -/
def ofUnits (fs : FileSystem) (checker : Checker) (units : List String) : CheckRun :=
  let checked := units.map (checkDump fs checker)
  let done := checked.takeWhile Except.isOk
  { trace := done.flatMap fun r => (r.toOption.map Prod.snd).getD []
    result := (fun rs => ⟨rs.map Prod.fst⟩) <$> checked.mapM id }

/-- Runs a check. -/
def run (fs : FileSystem) (env : Option String) (o : CheckOptions) : CheckRun :=
  match checkerOf fs env o with
  | .error e => ⟨[], .error e⟩
  | .ok checker => ofUnits fs checker o.units

/-- Runs a check in a project, if the root of the project can be opened. -/
def runAt (root : String) (opened : Except IoError FileSystem) (env : Option String)
    (o : CheckOptions) : CheckRun :=
  match opened with
  | .error e => ⟨[], .error (.root root e)⟩
  | .ok fs => run fs env o

end CheckRun

end Rulebook
