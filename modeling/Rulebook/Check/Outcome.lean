import Rulebook.Diagnostic
import Rulebook.Unit.LineIndex

/-!
# The outcome of a check

A check of several units has one result for each, in the order in which they were asked for. A
result names the dump of the unit and has the diagnostics with their positions in the source.
-/

namespace Rulebook

/-- A diagnostic with the position at which its span starts. -/
structure ReportedDiagnostic where
  diagnostic : Diagnostic
  position : Option Position := none
  deriving Repr, DecidableEq, Inhabited

/-- What is told of one unit. The path of the dump is kept as its bytes, which need not be text. -/
structure UnitResult where
  dump : ByteArray
  diagnostics : List ReportedDiagnostic
  deriving Inhabited

/-- What is told of all units. -/
structure CheckOutcome where
  units : List UnitResult := []
  deriving Inhabited

namespace CheckOutcome

def diagnostics (o : CheckOutcome) : List ReportedDiagnostic :=
  o.units.flatMap UnitResult.diagnostics

def findingCount (o : CheckOutcome) : Nat :=
  o.diagnostics.countP fun d => d.diagnostic.isFinding

def warningCount (o : CheckOutcome) : Nat :=
  o.diagnostics.countP fun d => d.diagnostic.isWarning

def hasFindings (o : CheckOutcome) : Bool := 0 < o.findingCount

end CheckOutcome

end Rulebook
