import Rulebook.Rule.Engine
import Rulebook.Rule.Matcher
import Rulebook.Rule.Template
import Rulebook.Toml.Decode

/-!
# Compiling rule files

A rule file compiles as a whole or not at all. Its text has to be a rule file, everything it imports
has to be importable, and then its rules are compiled in order; a fault of a rule is told with the
line of the rule's name. Names are compared without the white space around them.
-/

namespace Rulebook

/-- Why a rule is refused. -/
inductive RuleFault where
  | nameless
  | matcher (fault : MatcherFault)
  | template (fault : Template.Fault)
  deriving Repr, DecidableEq

def RuleFault.message : RuleFault → String
  | nameless => "Invalid rule: name must not be empty"
  | matcher fault => fault.message
  | template fault => "Invalid message template: " ++ fault.message

/-- A rule ready for use. -/
structure Rule where
  name : String
  group : String
  description : Option String
  matcher : Matcher
  message : Template
  deriving DecidableEq

/-- The rules of one file. -/
structure RuleSet where
  file : String
  package : Option String
  rules : List Rule
  deriving DecidableEq

namespace RuleSource

/-- The name of the rule without the white space around it. -/
def trimmedName (r : RuleSource) : String := Text.trim r.name.text

def compile (r : RuleSource) : Except RuleFault Rule := do
  if r.trimmedName = "" then .error .nameless
  let matcher ← (Matcher.compile r.conditions).mapError .matcher
  let message ← (Template.parse matcher.captureNames r.message).mapError .template
  return ⟨r.trimmedName, r.effectiveGroup, r.description, matcher, message⟩

end RuleSource

namespace RuleFile

/-- What is wrong with one of the rules of a file. -/
inductive Fault where
  | duplicate (name : String)
  | rule (name : String) (fault : RuleFault)
  deriving Repr, DecidableEq

def Fault.message : Fault → String
  | duplicate name => s!"duplicate rule name '{name}'"
  | rule name fault => s!"rule '{name}': {fault.message}"

/-- Compiles rules in order, after rules with certain names. The first rule at fault is told. -/
def compileRules : List String → List RuleSource → Except (PlacedText × Fault) (List Rule)
  | _, [] => .ok []
  | seen, r :: rs =>
    let name := r.trimmedName
    if seen.contains name then .error (r.name, .duplicate name)
    else match r.compile with
      | .error fault => .error (r.name, .rule r.name.text fault)
      | .ok rule => (rule :: ·) <$> compileRules (name :: seen) rs

/-- The imports of a file. -/
def imports (f : RuleFile) : List String := (f.package.map PackageHeader.imports).getD []

/-- Compiles the text of a rule file. -/
def compile (ctx : ParseContext) (file content : String) : Except LoadError RuleSet := do
  let parsed ← (Toml.decode RuleFile.ofData content).mapError fun fault =>
    .dsl file (some (lineOf content fault.offset)) fault.message
  match parsed.imports.find? fun package => !ctx.canImport package with
  | some package => .error (.importFailed file package)
  | none =>
    let rules ← (compileRules [] parsed.rules).mapError fun (name, fault) =>
      .dsl file (some (lineOf content name.place.start)) fault.message
    return ⟨file, parsed.package.bind PackageHeader.name, rules⟩

end RuleFile

end Rulebook
