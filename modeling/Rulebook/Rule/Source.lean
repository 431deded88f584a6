import Rulebook.Data.Decode

/-!
# Rule files as they are written

A rule file may name its package and what it imports, and lists rules. Of a rule the name, the
conditions and the message have to be there. A field with any other name is refused, so that a
mistyped condition cannot go unnoticed.
-/

namespace Rulebook

open Decoder

/-- A text with the place where it is written. -/
structure PlacedText where
  text : String
  place : Extent
  deriving Repr, DecidableEq, Inhabited

def PlacedText.ofData : Decoder PlacedText := fun d =>
  (⟨·, d.place⟩) <$> Decoder.string d

/-- The conditions of a rule. A node is matched when every condition that is given holds. -/
structure MatchSource where
  kinds : Option (List String) := none
  textPattern : Option String := none
  notTextPattern : Option String := none
  typePattern : Option String := none
  pathPattern : Option String := none
  packages : Option (List String) := none
  deriving Repr, DecidableEq, Inhabited

namespace MatchSource

/-- Whether no condition is given. -/
def isEmpty (m : MatchSource) : Bool :=
  m.kinds.isNone && m.textPattern.isNone && m.notTextPattern.isNone && m.typePattern.isNone &&
    m.pathPattern.isNone && m.packages.isNone

/-- One text or a list of texts. -/
def choices : Decoder (Option (List String))
  | .scalar _ (.text s) => .ok (some [s])
  | .list _ ds ending => some <$> items string ds ending
  | d => .error (d.unexpected "a string or array of strings")

def shape : Shape MatchSource where
  name := "RuleMatcher"
  fields := ["kind", "text_pattern", "not_text_pattern", "type_pattern", "path_pattern", "package"]
  strict := true
  set draft name value := do
    let pattern := optional Decoder.string
    match name with
    | "kind" => return { draft with kinds := ← choices value }
    | "text_pattern" => return { draft with textPattern := ← pattern value }
    | "not_text_pattern" => return { draft with notTextPattern := ← pattern value }
    | "type_pattern" => return { draft with typePattern := ← pattern value }
    | "path_pattern" => return { draft with pathPattern := ← pattern value }
    | _ => return { draft with packages := ← choices value }

def ofData : Decoder MatchSource := shape.decode {} fun draft _ => .ok draft

end MatchSource

/-- The message of a rule that has been read. -/
structure ReportDraft where
  message : Option String := none

def reportShape : Shape ReportDraft where
  name := "RuleReport"
  fields := ["message"]
  strict := true
  set _ _ value := return ⟨some (← Decoder.string value)⟩

/-- The message of a rule, which stands in a record of its own. -/
def messageOfData : Decoder String :=
  reportShape.decode {} fun draft missing => require draft.message "message" missing

/-- A rule as it is written. -/
structure RuleSource where
  name : PlacedText
  group : Option String := none
  description : Option String := none
  conditions : MatchSource
  message : String
  deriving Repr, DecidableEq, Inhabited

namespace RuleSource

/-- The group by which a rule is picked for tracing: its name, unless another is given. -/
def effectiveGroup (r : RuleSource) : String := r.group.getD r.name.text

/-- What has been read of a rule. -/
structure Draft where
  name : Option PlacedText := none
  group : Option String := none
  description : Option String := none
  conditions : Option MatchSource := none
  message : Option String := none

def shape : Shape Draft where
  name := "TomlRule"
  fields := ["name", "group", "description", "match", "report"]
  strict := true
  set draft name value :=
    match name with
    | "name" => return { draft with name := some (← PlacedText.ofData value) }
    | "group" => return { draft with group := ← optional Decoder.string value }
    | "description" => return { draft with description := ← optional Decoder.string value }
    | "match" => return { draft with conditions := some (← MatchSource.ofData value) }
    | _ => return { draft with message := some (← messageOfData value) }

def ofData : Decoder RuleSource :=
  shape.decode {} fun draft missing => do
    let name ← require draft.name "name" missing
    let conditions ← require draft.conditions "match" missing
    let message ← require draft.message "report" missing
    return ⟨name, draft.group, draft.description, conditions, message⟩

end RuleSource

/-- The package that a rule file belongs to, with what the file imports. -/
structure PackageHeader where
  name : Option String := none
  imports : List String := []
  deriving Repr, DecidableEq, Inhabited

namespace PackageHeader

def shape : Shape PackageHeader where
  name := "PackageHeader"
  fields := ["name", "imports"]
  strict := true
  set draft name value :=
    match name with
    | "name" => return { draft with name := ← optional Decoder.string value }
    | _ => return { draft with imports := ← list Decoder.string value }

def ofData : Decoder PackageHeader := shape.decode {} fun draft _ => .ok draft

end PackageHeader

/-- A rule file. -/
structure RuleFile where
  package : Option PackageHeader := none
  rules : List RuleSource := []
  deriving Repr, DecidableEq, Inhabited

namespace RuleFile

def shape : Shape RuleFile where
  name := "TomlRuleFile"
  fields := ["package", "rules"]
  strict := true
  set draft name value :=
    match name with
    | "package" => return { draft with package := ← optional PackageHeader.ofData value }
    | _ => return { draft with rules := ← list RuleSource.ofData value }

def ofData : Decoder RuleFile := shape.decode {} fun draft _ => .ok draft

end RuleFile

end Rulebook
