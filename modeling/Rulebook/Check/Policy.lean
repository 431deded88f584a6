import Rulebook.Rule.Engine
import Rulebook.Text.Split

/-!
# Failure policies

A policy is a set of conditions on the failures of rule files. A failure is fatal when one of the
conditions holds for it, and a file with a failure that is not fatal is left out. Under the empty
policy nothing is fatal.
-/

namespace Rulebook

/-- A kind of failure. -/
inductive FailureCondition where
  | all
  | dsl
  | imports
  deriving Repr, DecidableEq, Inhabited

namespace FailureCondition

/-- All conditions in the order of their names. -/
def values : List FailureCondition := [all, dsl, imports]

def token : FailureCondition → String
  | all => "all"
  | dsl => "dsl"
  | imports => "import"

/-- Whether a failure is of the kind. A file that cannot be read counts as one whose text is at
fault. -/
def holds (c : FailureCondition) (e : LoadError) : Bool :=
  match c with
  | all => true
  | dsl => !e.isImport
  | imports => e.isImport

def ofToken? (s : String) : Option FailureCondition := values.find? fun c => c.token = s

/-- The names of all conditions. -/
def supported : String := ",".intercalate (values.map token)

end FailureCondition

/-- A set of conditions. -/
structure FailurePolicy where
  all : Bool := false
  dsl : Bool := false
  imports : Bool := false
  deriving Repr, DecidableEq, Inhabited

/-- The name of a condition that there is not. -/
structure UnknownCondition where
  token : String
  deriving Repr, DecidableEq

def UnknownCondition.message (e : UnknownCondition) : String :=
  s!"'fail_on_error' value '{e.token}' is invalid. It must be a comma-separated list and " ++
    s!"supported values are '{FailureCondition.supported}'"

namespace FailureCondition

def parse (s : String) : Except UnknownCondition FailureCondition :=
  match ofToken? s with
  | some c => .ok c
  | none => .error ⟨s⟩

end FailureCondition

namespace FailurePolicy

/-- The policy under which nothing is fatal. -/
def lenient : FailurePolicy := {}

def contains (p : FailurePolicy) : FailureCondition → Bool
  | .all => p.all
  | .dsl => p.dsl
  | .imports => p.imports

/-- The conditions of a policy in the order of their names. -/
def conditions (p : FailurePolicy) : List FailureCondition :=
  FailureCondition.values.filter p.contains

def ofConditions (cs : List FailureCondition) : FailurePolicy :=
  ⟨cs.contains .all, cs.contains .dsl, cs.contains .imports⟩

/-- Reads the names of conditions, separated by commas. The first name that there is not is told. -/
def parse (flag : String) : Except UnknownCondition FailurePolicy :=
  ofConditions <$> (Text.entries flag).mapM FailureCondition.parse

/-- The names of the conditions, separated by commas. -/
def text (p : FailurePolicy) : String := ",".intercalate (p.conditions.map FailureCondition.token)

def isLenient (p : FailurePolicy) : Bool := p.conditions.isEmpty

/-- The conditions that make a failure fatal. -/
def fatalConditions (p : FailurePolicy) (e : LoadError) : List FailureCondition :=
  p.conditions.filter (·.holds e)

def isFatal (p : FailurePolicy) (e : LoadError) : Bool := p.conditions.any (·.holds e)

end FailurePolicy

end Rulebook
