import Rulebook.Check.Checker

/-!
# The registry of checkers

Checkers are registered with a catalogue entry that declares their parameters. A name is taken if it
is in the registry in any ASCII letter case, and it is looked up without regard to ASCII case. A
checker is built from the values of exactly the declared parameters.
-/

namespace Rulebook

/-- A parameter: the value it has unless it is set, and what it is for. -/
structure ParamInfo where
  default : String
  usage : String
  deriving Repr, DecidableEq, Inhabited

/-- The catalogue entry of a checker. -/
structure CheckerInfo where
  name : String
  tags : List String := []
  summary : String := ""
  details : String := ""
  note : String := ""
  params : SortedMap String ParamInfo := ∅
  deriving DecidableEq, Inhabited

/-- Why a checker that is known cannot be set up. -/
inductive SetupError where
  | check (e : CheckError)
  | other (message : String)
  deriving Repr, DecidableEq

def SetupError.message : SetupError → String
  | check e => e.message
  | other message => message

/-- A catalogue entry with the way to set the checker up. -/
structure RegisteredChecker where
  info : CheckerInfo
  setup : Params → Except SetupError Checker

/-- The checkers in the order of registration. -/
structure Registry where
  checkers : List RegisteredChecker := []

inductive RegistryError where
  | unknownChecker (name : String)
  | duplicateChecker (name : String)
  | unknownParam (checker param : String)
  | setup (checker : String) (cause : SetupError)
  deriving Repr, DecidableEq

def RegistryError.message : RegistryError → String
  | unknownChecker name => "Checker not registered: " ++ name
  | duplicateChecker name => "Checker already registered: " ++ name
  | unknownParam checker param => s!"Unknown parameter '{param}' for checker {checker}"
  | setup checker cause => s!"Failed to initialize checker {checker}: {cause.message}"

/-- Whether two names differ at most in the case of ASCII letters. -/
def sameName (a b : String) : Bool := a.toList.map Char.toLower = b.toList.map Char.toLower

namespace Registry

/-- The catalogue entry that goes by a name. -/
def find? (r : Registry) (name : String) : Option CheckerInfo :=
  r.checkers.findSome? fun c => if sameName c.info.name name then some c.info else none

/-- The catalogue. -/
def infos (r : Registry) : List CheckerInfo := r.checkers.map RegisteredChecker.info

def register (r : Registry) (c : RegisteredChecker) : Except RegistryError Registry :=
  if (r.find? c.info.name).isSome then .error (.duplicateChecker c.info.name)
  else .ok ⟨r.checkers ++ [c]⟩

/-- The declared parameters with their values. Of values that are not declared the first by name is
told. -/
def resolveParams (info : CheckerInfo) (overrides : Params) : Except RegistryError Params :=
  match overrides.keys.find? fun k => !info.params.contains k with
  | some k => .error (.unknownParam info.name k)
  | none =>
    .ok ((SortedMap.ofList (info.params.entries.map fun p => (p.1, p.2.default))).union overrides)

/-- The checker that is built under a name. -/
def entry? (r : Registry) (name : String) : Option RegisteredChecker :=
  r.checkers.find? fun c => sameName c.info.name name

def build (r : Registry) (name : String) (overrides : Params) : Except RegistryError Checker :=
  match r.entry? name with
  | none => .error (.unknownChecker name)
  | some c => do
    let params ← resolveParams c.info overrides
    (c.setup params).mapError (.setup c.info.name)

/-- A registry as its description writes it. -/
def description (r : Registry) : String :=
  "CheckerRegistry \x7b checkers: " ++ toString r.checkers.length ++ " \x7d"

end Registry

namespace RuleChecker

/-- The parameters of the rule checker. -/
def params : SortedMap String ParamInfo := .ofList [
  ("rules", ⟨"", "comma-separated list of rule file paths. " ++
    "Glob patterns such as 'rules-*.toml' may be specified"⟩),
  ("debug", ⟨"", "enable debug for the specified named rules group"⟩),
  ("fail_on_error", ⟨"", "\n".intercalate [
    "Determines the behavior when an error occurs while loading rule files.",
    "If not set, log the error and skip rule files that contain an error.",
    "If set, the value must be a comma-separated list of error conditions.",
    "* 'import': a rule file refers to a package that cannot be loaded.",
    "* 'dsl':    a rule file does not comply with the rule language.",
    "* 'all':    any error."]⟩),
  ("order", ⟨"message", "order of findings within a unit: 'message' or 'position'"⟩)]

/-- The catalogue entry of the rule checker. -/
def info : CheckerInfo where
  name := checkerName
  tags := ["style", "experimental"]
  summary := "Runs user-defined rules from rule files"
  details := "Reads rule files and turns them into checker findings."
  note := "Rule files that fail to load are skipped unless fail_on_error says otherwise."
  params := params

/-- Sets up the rule checker from its parameters. -/
def setup {σ : Type} [RuleEngine σ] (fs : FileSystem) (ctx : ParseContext) (engine : σ)
    (p : Params) : Except CheckError (RuleChecker σ) := do
  ofSettings (← CheckSettings.ofParams p) fs ctx engine

/-- The rule checker as it is registered. -/
def registered {σ : Type} [RuleEngine σ] (fs : FileSystem) (ctx : ParseContext) (engine : σ) :
    RegisteredChecker where
  info := info
  setup p := ((setup fs ctx engine p).map toChecker).mapError .check

end RuleChecker

end Rulebook
