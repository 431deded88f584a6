import Rulebook.Check.Order
import Rulebook.Check.Policy
import Rulebook.Sorted.Map

/-!
# Settings of the rule checker

The parameters of a checker are texts. Those of the rule checker are read as settings before any
file is touched: the patterns of the rule files, the group to trace, the failure policy, and the
order of findings.
-/

namespace Rulebook

/-- The parameters of a checker by their names. -/
abbrev Params := SortedMap String String

/-- The value of a parameter, which is empty unless it is set. -/
def Params.text (p : Params) (name : String) : String := (p.find? name).getD ""

/-- A pattern for the paths of rule files. -/
structure RulePattern where
  text : String
  deriving Repr, DecidableEq, Inhabited

namespace RulePattern

def ofText (s : String) : RulePattern := ⟨Text.trim s⟩

/-- The patterns of a list that is separated by commas. -/
def parseList (flag : String) : List RulePattern := (Text.entries flag).map ofText

end RulePattern

/-- Why a checker cannot be set up. -/
inductive CheckError where
  | noMatchingFiles (pattern : String)
  | ruleLoad (file : String) (cause : LoadError)
  | unknownCondition (e : UnknownCondition)
  | unknownOrder (e : UnknownOrder)
  deriving Repr, DecidableEq

namespace CheckError

/-- The rule file at fault, if it is one file. -/
def file? : CheckError → Option String
  | ruleLoad file _ => some file
  | _ => none

def message : CheckError → String
  | noMatchingFiles pattern => s!"no file matching '{pattern}'"
  | ruleLoad _ cause => "failed to load rules: " ++ cause.message
  | unknownCondition e => e.message
  | unknownOrder e => e.message

end CheckError

/-- The settings of the rule checker. -/
structure CheckSettings where
  patterns : List RulePattern := []
  debug : Option String := none
  policy : FailurePolicy := .lenient
  order : FindingOrder := .message
  deriving Repr, DecidableEq, Inhabited

namespace CheckSettings

/-- The group to trace. White space around it does not count, and nothing stands for no group. -/
def debugGroup (value : String) : Option String :=
  let group := Text.trim value
  if group = "" then none else some group

/-- Reads parameters. A fault of the policy comes before one of the order. -/
def ofParams (p : Params) : Except CheckError CheckSettings := do
  let policy ← (FailurePolicy.parse (p.text "fail_on_error")).mapError .unknownCondition
  let order ← (FindingOrder.parse (p.text "order")).mapError .unknownOrder
  return ⟨RulePattern.parseList (p.text "rules"), debugGroup (p.text "debug"), policy, order⟩

end CheckSettings

end Rulebook
