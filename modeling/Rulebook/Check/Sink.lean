import Rulebook.Check.Checker

/-!
# Sinks

A checker sends what it has to say of a unit to a sink, which takes findings and warnings apart from
each other. A collector is a sink that keeps all of them as diagnostics, in the order in which they
arrive.
-/

namespace Rulebook

/-- What can take in the findings and the warnings of a checker. -/
class Sink (τ : Type) where
  report : τ → SourceUnit → Finding → τ
  warn : τ → SourceUnit → String → τ

/-- The diagnostics that have arrived so far. -/
structure Collector where
  diagnostics : Array Diagnostic := #[]
  deriving Repr, DecidableEq, Inhabited

namespace Collector

instance : Sink Collector where
  report c unit f := ⟨c.diagnostics.push (.ofFinding unit f)⟩
  warn c unit message := ⟨c.diagnostics.push (.ofWarning unit message)⟩

def findings (c : Collector) : Array Diagnostic := c.diagnostics.filter Diagnostic.isFinding

def warnings (c : Collector) : Array Diagnostic := c.diagnostics.filter Diagnostic.isWarning

end Collector

/-- Runs the engine over a unit and sends what comes of it to a sink: the error that cut the run
short, if any, as a warning, and then the findings in order. -/
def RuleChecker.walkInto {σ τ : Type} [RuleEngine σ] [Sink τ] (c : RuleChecker σ)
    (ctx : UnitContext) (unit : SourceUnit) (sink : τ) : τ :=
  let out := c.checkUnit ctx unit
  let warned := match out.error with
    | none => sink
    | some e => Sink.warn sink unit ("execution error: " ++ e)
  out.findings.foldl (fun sink f => Sink.report sink unit f) warned

end Rulebook
