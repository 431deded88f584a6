import Rulebook.Rule.Compile

/-!
# Running loaded rules

The rules of a unit's check are those of all files loaded so far, in the order of loading. A run
visits every pair of a node and a rule, node by node, and within a node file by file. It stops at
the pair that would give one finding too many.
-/

namespace Rulebook

/-- The greatest number of findings in one unit. -/
def maxFindings : Nat := 10000

/-- The rule sets that have been loaded, in order. A file that is loaded twice occurs twice. -/
structure LoadedRules where
  sets : List RuleSet := []
  deriving DecidableEq

/-- A rule on its way to a node. -/
structure Visit where
  node : Node
  file : String
  rule : Rule

namespace Visit

/-- The values of the variables for a node. Captures come before builtins of the same name. -/
def value? (ctx : RunContext) (unit : SourceUnit) (node : Node)
    (captures : SortedMap String String) (name : String) : Option String :=
  let position := ctx.lines.position node.span.start.toNat
  match captures.find? name with
  | some text => some text
  | none =>
    match name with
    | "text" => some node.text
    | "kind" => some node.kind
    | "type" => some ((ctx.types.find? node.id).getD "")
    | "line" => some (toString position.line)
    | "column" => some (toString position.column)
    | "package" => some (ctx.packageName unit)
    | _ => none

def verdict (v : Visit) (ctx : RunContext) (unit : SourceUnit) : Verdict :=
  v.rule.matcher.evaluate ctx unit v.node

/-- The finding that a verdict gives. -/
def finding? (v : Visit) (ctx : RunContext) (unit : SourceUnit) : Verdict → Option Finding
  | .matched captures =>
    some (.ofNode v.node (v.rule.message.render (value? ctx unit v.node captures)))
  | _ => none

/-- The line that accounts for a verdict, if the group of the rule is traced. A node that is
skipped is not accounted for. -/
def trace? (v : Visit) (ctx : RunContext) (verdict : Verdict) : Option String :=
  if ctx.traces v.rule.group then
    match verdict with
    | .skipped => none
    | .rejected clause =>
      some s!"{v.file}: {v.rule.name}: rejected node {Node.label v.node.id}: {clause.name}"
    | .matched _ => some s!"{v.file}: {v.rule.name}: matched node {Node.label v.node.id}"
  else none

/-- The text of the error that one finding too many is. -/
def excess (v : Visit) (unit : SourceUnit) : String :=
  s!"{unit.path}: more than {maxFindings} findings at rule '{v.rule.name}' on node " ++
    Node.label v.node.id

end Visit

namespace LoadedRules

def ruleCount (l : LoadedRules) : Nat := (l.sets.flatMap RuleSet.rules).length

/-- The files in the order of loading. -/
def files (l : LoadedRules) : List String := l.sets.map RuleSet.file

def load (l : LoadedRules) (ctx : ParseContext) (file content : String) :
    Except LoadError LoadedRules := do
  return ⟨l.sets ++ [← RuleFile.compile ctx file content]⟩

/-- The pairs of a node and a rule in the order of visiting. -/
def visits (l : LoadedRules) (unit : SourceUnit) : List Visit :=
  unit.nodes.toList.flatMap fun node =>
    l.sets.flatMap fun set => set.rules.map fun rule => ⟨node, set.file, rule⟩

/-- Makes visits until there would be more findings than `room`. What has been found and traced is
listed last first. -/
def visitAll (ctx : RunContext) (unit : SourceUnit) :
    Nat → List Finding → List String → List Visit → RunOutput
  | _, found, trace, [] => ⟨found.reverse, none, trace.reverse⟩
  | room, found, trace, v :: vs =>
    let verdict := v.verdict ctx unit
    let trace := (v.trace? ctx verdict).toList ++ trace
    match v.finding? ctx unit verdict with
    | none => visitAll ctx unit room found trace vs
    | some f =>
      match room with
      | 0 => ⟨found.reverse, some (v.excess unit), trace.reverse⟩
      | room + 1 => visitAll ctx unit room (f :: found) trace vs

/-- Runs the loaded rules over a unit. -/
def run (l : LoadedRules) (ctx : RunContext) (unit : SourceUnit) : RunOutput :=
  visitAll ctx unit maxFindings [] [] (l.visits unit)

instance : RuleEngine LoadedRules := ⟨load, run⟩

end LoadedRules

end Rulebook
