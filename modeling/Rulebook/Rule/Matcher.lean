import Rulebook.Regex
import Rulebook.Rule.Source
import Rulebook.Unit.Context

/-!
# Conditions on nodes

The conditions of a rule are checked against one node of a unit. A node of another kind is skipped
without further ado; otherwise the first condition that fails rejects the node. If all hold the node
is matched, with the texts that the named groups of the text pattern captured.
-/

namespace Rulebook

/-- A condition that can reject a node. -/
inductive Clause where
  | package
  | pathPattern
  | textPattern
  | notTextPattern
  | typePattern
  deriving Repr, DecidableEq, Inhabited

def Clause.name : Clause → String
  | package => "package"
  | pathPattern => "path_pattern"
  | textPattern => "text_pattern"
  | notTextPattern => "not_text_pattern"
  | typePattern => "type_pattern"

/-- What is decided about a node. -/
inductive Verdict where
  | skipped
  | rejected (clause : Clause)
  | matched (captures : SortedMap String String)
  deriving DecidableEq, Inhabited

/-- The greatest length of a pattern in bytes. -/
def maxPatternLength : Nat := 500

/-- Why a pattern is refused. -/
inductive PatternFault where
  | tooLong
  | notRegex (e : Regex.Error)
  deriving Repr, DecidableEq

def PatternFault.message : PatternFault → String
  | tooLong =>
    s!"Invalid pattern: Pattern exceeds maximum length of {maxPatternLength} characters"
  | notRegex e => "Invalid pattern: " ++ e.message

/-- Why conditions are refused. -/
inductive MatcherFault where
  | noCondition
  | pattern (clause : Clause) (fault : PatternFault)
  deriving Repr, DecidableEq

def MatcherFault.message : MatcherFault → String
  | noCondition => "Invalid rule: match section must contain at least one condition"
  | pattern clause fault => s!"Invalid pattern: {clause.name}: {fault.message}"

def compilePattern (pattern : String) : Except PatternFault Regex :=
  if maxPatternLength < pattern.utf8ByteSize then .error .tooLong
  else (Regex.compile pattern).mapError .notRegex

/-- The conditions of a rule, ready for use. -/
structure Matcher where
  kinds : Option (List String)
  text : Option Regex
  notText : Option Regex
  type : Option Regex
  path : Option Regex
  packages : Option (List String)
  deriving DecidableEq

namespace Matcher

/-- The pattern of a condition, if the condition is given. -/
def compileClause (clause : Clause) (pattern : Option String) :
    Except MatcherFault (Option Regex) :=
  match pattern with
  | none => .ok none
  | some p =>
    match compilePattern p with
    | .ok r => .ok (some r)
    | .error fault => .error (.pattern clause fault)

def compile (m : MatchSource) : Except MatcherFault Matcher :=
  if m.isEmpty then .error .noCondition
  else do
    let text ← compileClause .textPattern m.textPattern
    let notText ← compileClause .notTextPattern m.notTextPattern
    let type ← compileClause .typePattern m.typePattern
    let path ← compileClause .pathPattern m.pathPattern
    return ⟨m.kinds, text, notText, type, path, m.packages⟩

/-- The named groups of the text pattern. -/
def captureNames (m : Matcher) : List String := (m.text.map Regex.groupNames).getD []

/-! ## The conditions one by one -/

def acceptsKind (m : Matcher) (node : Node) : Bool := m.kinds.all (·.contains node.kind)

def acceptsPackage (m : Matcher) (ctx : RunContext) (unit : SourceUnit) : Bool :=
  m.packages.all (·.contains (ctx.packageName unit))

def acceptsPath (m : Matcher) (unit : SourceUnit) : Bool := m.path.all (·.isMatch unit.path)

/-- What the named groups of the text pattern capture, if the text matches. -/
def captures? (m : Matcher) (node : Node) : Option (SortedMap String String) :=
  match m.text with
  | none => some ∅
  | some r => (r.captures node.text).map SortedMap.ofList

def acceptsNotText (m : Matcher) (node : Node) : Bool := m.notText.all (!·.isMatch node.text)

def acceptsType (m : Matcher) (ctx : RunContext) (node : Node) : Bool :=
  m.type.all fun r => (ctx.types.find? node.id).any r.isMatch

/-- The verdict on a node. -/
def evaluate (m : Matcher) (ctx : RunContext) (unit : SourceUnit) (node : Node) : Verdict :=
  if !m.acceptsKind node then .skipped
  else if !m.acceptsPackage ctx unit then .rejected .package
  else if !m.acceptsPath unit then .rejected .pathPattern
  else match m.captures? node with
    | none => .rejected .textPattern
    | some captures =>
      if !m.acceptsNotText node then .rejected .notTextPattern
      else if !m.acceptsType ctx node then .rejected .typePattern
      else .matched captures

end Matcher

end Rulebook
