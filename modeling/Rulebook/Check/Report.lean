import Rulebook.Check.Outcome
import Rulebook.Check.Registry
import Rulebook.Json.Value
import Rulebook.Text.Styled
import Rulebook.Text.Utf8
import Rulebook.Unit.Dump

/-!
# Reports

The outcome of a check is told to people, one line for each diagnostic and a summary, or as a JSON
array with one record for each diagnostic. The catalogue of checkers has the same two forms.
-/

namespace Rulebook

open Text (Style)

/-- A number of things. -/
def counted (n : Nat) (word : String) : String :=
  if n = 1 then s!"{n} {word}" else s!"{n} {word}s"

namespace ReportedDiagnostic

/-- The path of the unit, with the position if there is one. -/
def location (d : ReportedDiagnostic) : String :=
  match d.position with
  | some p => s!"{d.diagnostic.path}:{p.text}"
  | none => d.diagnostic.path

/-- A diagnostic on a line of its own. -/
def line (colour : Bool) (d : ReportedDiagnostic) : String :=
  let location := Style.bold.paint colour d.location
  match d.diagnostic.kind with
  | .finding => s!"{location}: {d.diagnostic.message}\n"
  | .warning =>
    let label := Style.yellow.paint colour "warning:"
    s!"{location}: {label} {d.diagnostic.message}\n"

end ReportedDiagnostic

def Position.toJson (p : Position) : Json :=
  .obj [("line", .num p.line), ("column", .num p.column)]

namespace ReportedDiagnostic

/-- A diagnostic as a record, with the path of the dump in front. -/
def toJson (dump : String) (d : ReportedDiagnostic) : Json :=
  .obj <| [("dump", .str dump), ("path", .str d.diagnostic.path),
      ("kind", .str d.diagnostic.kind.name)] ++
    (d.diagnostic.node.map fun n => ("node", Json.num n.toNat)).toList ++
    (d.diagnostic.span.map fun s => ("span", s.toJson)).toList ++
    [("message", .str d.diagnostic.message)] ++
    (d.position.map fun p => ("position", p.toJson)).toList

end ReportedDiagnostic

namespace CheckOutcome

/-- The summary line. -/
def summary (colour : Bool) (o : CheckOutcome) : String :=
  let text := counted o.findingCount "finding" ++ " in " ++ counted o.units.length "unit"
  let style := if o.findingCount = 0 then Style.green else Style.boldRed
  let warnings :=
    if o.warningCount = 0 then ""
    else ", " ++ Style.yellow.paint colour (counted o.warningCount "warning")
  style.paint colour text ++ warnings ++ "\n"

/-- The report for people. -/
def toText (colour : Bool) (o : CheckOutcome) : String :=
  String.join (o.diagnostics.map (ReportedDiagnostic.line colour)) ++ o.summary colour

/-- The records of a unit. A dump whose path is no text has none, unless nothing is told of it. -/
def unitJson (u : UnitResult) : Except Text.Utf8Fault (List Json) :=
  u.diagnostics.mapM fun d => return d.toJson (← Text.decodeUtf8 u.dump)

/-- The report for programs. -/
def toJsonText (o : CheckOutcome) : String :=
  match o.units.mapM unitJson with
  | .ok records => (Json.arr records.flatten).toLines ++ "\n"
  | .error _ =>
    "\x7b\"error\": " ++ Text.quote "path contains invalid UTF-8 characters" ++ "\x7d\n"

end CheckOutcome

namespace CheckerInfo

/-- A parameter with its value and what it is for. -/
def paramText (colour : Bool) (name : String) (p : ParamInfo) : String :=
  s!"  {Style.cyan.paint colour name} (default {Text.quote p.default})\n" ++
    String.join ((Text.lines p.usage).map fun line => s!"      {line}\n")

/-- A catalogue entry for people. -/
def toText (colour : Bool) (i : CheckerInfo) : String :=
  Style.bold.paint colour i.name ++ " [" ++ ", ".intercalate i.tags ++ "]\n" ++
    s!"  {i.summary}\n" ++
    (if i.details = "" then "" else s!"  {Style.dimmed.paint colour i.details}\n") ++
    String.join (i.params.entries.map fun p => paramText colour p.1 p.2) ++
    (if i.note = "" then "" else s!"  Note: {i.note}\n")

def paramJson (p : ParamInfo) : Json :=
  .obj [("default", .str p.default), ("usage", .str p.usage)]

/-- A catalogue entry for programs. -/
def toJson (i : CheckerInfo) : Json :=
  .obj [("name", .str i.name), ("tags", .arr (i.tags.map .str)), ("summary", .str i.summary),
    ("details", .str i.details), ("note", .str i.note),
    ("params", .obj (i.params.entries.map fun p => (p.1, paramJson p.2)))]

end CheckerInfo

/-- The catalogue for people. -/
def catalogueText (colour : Bool) (infos : List CheckerInfo) : String :=
  String.join (infos.map (CheckerInfo.toText colour))

/-- The catalogue for programs. -/
def catalogueJson (infos : List CheckerInfo) : String :=
  (Json.arr (infos.map CheckerInfo.toJson)).toLines ++ "\n"

end Rulebook
