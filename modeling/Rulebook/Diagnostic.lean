import Rulebook.Unit.Basic

/-!
# Findings and diagnostics

A rule that matches a node gives a finding. What a check hands out are diagnostics: findings, and
warnings about a unit as a whole, both with the path of the unit.
-/

namespace Rulebook

/-- A node with a message about it. -/
structure Finding where
  node : NodeId
  span : Span
  message : String
  deriving Repr, DecidableEq, Inhabited

def Finding.ofNode (n : Node) (message : String) : Finding := ⟨n.id, n.span, message⟩

inductive DiagnosticKind where
  | finding
  | warning
  deriving Repr, DecidableEq, Inhabited

def DiagnosticKind.name : DiagnosticKind → String
  | finding => "finding"
  | warning => "warning"

/-- A message about a unit. -/
structure Diagnostic where
  path : String
  kind : DiagnosticKind
  node : Option NodeId := none
  span : Option Span := none
  message : String
  deriving Repr, DecidableEq, Inhabited

namespace Diagnostic

/-- A finding in a unit. -/
def ofFinding (unit : SourceUnit) (f : Finding) : Diagnostic :=
  ⟨unit.path, .finding, some f.node, some f.span, f.message⟩

/-- A warning about a unit. -/
def ofWarning (unit : SourceUnit) (message : String) : Diagnostic :=
  ⟨unit.path, .warning, none, none, message⟩

def isFinding (d : Diagnostic) : Bool := d.kind = .finding

def isWarning (d : Diagnostic) : Bool := d.kind = .warning

end Diagnostic

end Rulebook
