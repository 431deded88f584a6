import Rulebook.Check.Resolve
import Rulebook.Text.Quoted

/-!
# Checkers

A checker goes over units and says something about them. The rule checker runs an engine over a
unit; without an engine it has nothing to say. An error that cut the run short is told as a warning
before the findings.
-/

namespace Rulebook

/-- What comes of one unit: diagnostics, and the lines of the trace. -/
structure Walk where
  diagnostics : List Diagnostic := []
  trace : List String := []
  deriving Repr, DecidableEq, Inhabited

/-- A checker under its name, with a text that describes how it is set up. -/
structure Checker where
  name : String
  description : String
  walk : UnitContext → SourceUnit → Walk

/-- The checker that runs a rule engine. -/
structure RuleChecker (σ : Type) where
  engine : Option σ
  debug : Option String := none
  order : FindingOrder := .message

namespace RuleChecker

variable {σ : Type} [RuleEngine σ]

/-- The name of the rule checker. -/
def checkerName : String := "rulecheck"

/-- Sets up a checker. Without any pattern no file is looked at. -/
def ofSettings (settings : CheckSettings) (fs : FileSystem) (ctx : ParseContext) (engine : σ) :
    Except CheckError (RuleChecker σ) :=
  if settings.patterns.isEmpty then .ok ⟨none, settings.debug, settings.order⟩
  else do
    let r ← Resolution.resolve fs ctx settings.policy settings.patterns engine
    return ⟨r.engine?, settings.debug, settings.order⟩

/-- Runs the engine over a unit and puts the findings in order. -/
def checkUnit (c : RuleChecker σ) (ctx : UnitContext) (unit : SourceUnit) : RunOutput :=
  match c.engine with
  | none => {}
  | some engine =>
    let out := RuleEngine.run engine { ctx with debug := c.debug } unit
    { out with findings := c.order.sort out.findings }

/-- The diagnostics that a run amounts to. -/
def diagnostics (unit : SourceUnit) (out : RunOutput) : List Diagnostic :=
  let warnings := out.error.toList.map fun e => Diagnostic.ofWarning unit ("execution error: " ++ e)
  warnings ++ out.findings.map (Diagnostic.ofFinding unit)

def walk (c : RuleChecker σ) (ctx : UnitContext) (unit : SourceUnit) : Walk :=
  let out := c.checkUnit ctx unit
  ⟨diagnostics unit out, out.trace⟩

/-- The name of an order as descriptions write it. -/
def orderName : FindingOrder → String
  | .message => "Message"
  | .position => "Position"

def description (c : RuleChecker σ) : String :=
  "RuleCheckChecker \x7b name: " ++ Text.quote checkerName ++
    s!", engine: {c.engine.isSome}, debug: {Text.quoteOption c.debug}, " ++
    s!"order: {orderName c.order} \x7d"

def toChecker (c : RuleChecker σ) : Checker := ⟨checkerName, c.description, c.walk⟩

end RuleChecker

end Rulebook
