import Rulebook.Data.Decode
import Rulebook.Json.Reader
import Rulebook.Json.Value
import Rulebook.Unit.Context

/-!
# Unit dumps

A front end hands over a unit as one JSON record, with what else it knows: the package, the types
of the nodes by their ids, and the sizes of the platform. Only the unit and its path, the id and the
kind of a node, and both numbers of a span and of the sizes have to be there. Fields with other
names are passed over.
-/

namespace Rulebook

open Decoder

/-! ## Reading -/

/-- What has been read of a span. -/
structure Span.Draft where
  start : Option UInt32 := none
  stop : Option UInt32 := none

def Span.shape : Shape Span.Draft where
  name := "Span"
  fields := ["start", "end"]
  strict := false
  set draft name value :=
    match name with
    | "start" => return { draft with start := some (← u32 value) }
    | _ => return { draft with stop := some (← u32 value) }

def Span.ofData : Decoder Span :=
  Span.shape.decode {} fun draft missing => do
    return ⟨← require draft.start "start" missing, ← require draft.stop "end" missing⟩

/-- What has been read of a node. -/
structure Node.Draft where
  id : Option NodeId := none
  kind : Option String := none
  span : Span := {}
  text : String := ""

def Node.shape : Shape Node.Draft where
  name := "Node"
  fields := ["id", "kind", "span", "text"]
  strict := false
  set draft name value :=
    match name with
    | "id" => return { draft with id := some (← u32 value) }
    | "kind" => return { draft with kind := some (← Decoder.string value) }
    | "span" => return { draft with span := ← Span.ofData value }
    | _ => return { draft with text := ← Decoder.string value }

def Node.ofData : Decoder Node :=
  Node.shape.decode {} fun draft missing => do
    let id ← require draft.id "id" missing
    let kind ← require draft.kind "kind" missing
    return ⟨id, kind, draft.span, draft.text⟩

/-- What has been read of a unit. -/
structure SourceUnit.Draft where
  path : Option String := none
  package : String := ""
  source : String := ""
  nodes : List Node := []

def SourceUnit.shape : Shape SourceUnit.Draft where
  name := "SourceUnit"
  fields := ["path", "package", "source", "nodes"]
  strict := false
  set draft name value :=
    match name with
    | "path" => return { draft with path := some (← Decoder.text "path string" value) }
    | "package" => return { draft with package := ← Decoder.string value }
    | "source" => return { draft with source := ← Decoder.string value }
    | _ => return { draft with nodes := ← list Node.ofData value }

def SourceUnit.ofData : Decoder SourceUnit :=
  SourceUnit.shape.decode {} fun draft missing => do
    let path ← require draft.path "path" missing
    return ⟨path, draft.package, draft.source, draft.nodes.toArray⟩

/-- A list of names as a set. -/
def namesOfData : Decoder (SortedSet String) := fun d =>
  SortedSet.ofList <$> list Decoder.string d

def Package.shape : Shape Package where
  name := "PackageInfo"
  fields := ["path", "name", "symbols", "imports"]
  strict := false
  set draft name value :=
    match name with
    | "path" => return { draft with path := ← Decoder.string value }
    | "name" => return { draft with name := ← Decoder.string value }
    | "symbols" => return { draft with symbols := ← namesOfData value }
    | _ => return { draft with imports := ← namesOfData value }

def Package.ofData : Decoder Package := Package.shape.decode {} fun draft _ => .ok draft

/-- What has been read of the sizes. -/
structure Sizes.Draft where
  wordSize : Option UInt64 := none
  maxAlign : Option UInt64 := none

def Sizes.shape : Shape Sizes.Draft where
  name := "Sizes"
  fields := ["word_size", "max_align"]
  strict := false
  set draft name value :=
    match name with
    | "word_size" => return { draft with wordSize := some (← u64 value) }
    | _ => return { draft with maxAlign := some (← u64 value) }

def Sizes.ofData : Decoder Sizes :=
  Sizes.shape.decode {} fun draft missing => do
    let wordSize ← require draft.wordSize "word_size" missing
    let maxAlign ← require draft.maxAlign "max_align" missing
    return ⟨wordSize, maxAlign⟩

/-- The id that a key of the type table denotes: a number as JSON writes it, and nothing else. -/
def TypeTable.idOfKey (key : Key) : Except Fault NodeId :=
  match Json.number key.raw.toList with
  | none => .error .malformed
  | some (n, rest) => do
    let id ← u32 (.scalar key.place n.toScalar)
    if rest.isEmpty then return id else .error .malformed

/-- Writes entries into a type table. -/
def TypeTable.addAll : TypeTable → List (Key × Data) → Except Fault TypeTable
  | types, [] => .ok types
  | types, (key, value) :: rest => do
    let id ← TypeTable.idOfKey key
    let type ← Decoder.string value
    TypeTable.addAll (types.insert id type) rest

def TypeTable.ofData : Decoder TypeTable
  | .record _ fields ending => do
    let types ← TypeTable.addAll ∅ fields
    if ending = .broken then .error .malformed else return types
  | d => .error (d.unexpected "a map")

/-- A unit with everything its front end knows of it. -/
structure UnitFile where
  unit : SourceUnit
  package : Package := {}
  types : TypeTable := ∅
  sizes : Sizes := {}
  deriving DecidableEq, Inhabited

/-- What has been read of a dump. -/
structure UnitFile.Draft where
  unit : Option SourceUnit := none
  package : Package := {}
  types : TypeTable := ∅
  sizes : Sizes := {}

def UnitFile.shape : Shape UnitFile.Draft where
  name := "UnitFile"
  fields := ["unit", "package", "types", "sizes"]
  strict := false
  set draft name value :=
    match name with
    | "unit" => return { draft with unit := some (← SourceUnit.ofData value) }
    | "package" => return { draft with package := ← Package.ofData value }
    | "types" => return { draft with types := ← TypeTable.ofData value }
    | _ => return { draft with sizes := ← Sizes.ofData value }

def UnitFile.ofData : Decoder UnitFile :=
  UnitFile.shape.decode {} fun draft missing => do
    return ⟨← require draft.unit "unit" missing, draft.package, draft.types, draft.sizes⟩

/-- Reads a dump. -/
def UnitFile.parse (text : String) : Except Fault UnitFile := Json.decode UnitFile.ofData text

/-- What a check is given beside the unit. -/
def UnitFile.context (f : UnitFile) : UnitContext :=
  ⟨f.package, f.types, f.sizes, .ofSource f.unit.path f.unit.source⟩

/-! ## Writing -/

def Span.toJson (s : Span) : Json :=
  .obj [("start", .num s.start.toNat), ("end", .num s.stop.toNat)]

def Node.toJson (n : Node) : Json :=
  .obj [("id", .num n.id.toNat), ("kind", .str n.kind), ("span", n.span.toJson),
    ("text", .str n.text)]

def SourceUnit.toJson (u : SourceUnit) : Json :=
  .obj [("path", .str u.path), ("package", .str u.package), ("source", .str u.source),
    ("nodes", .arr (u.nodes.toList.map Node.toJson))]

def Package.toJson (p : Package) : Json :=
  .obj [("path", .str p.path), ("name", .str p.name),
    ("symbols", .arr (p.symbols.toList.map .str)), ("imports", .arr (p.imports.toList.map .str))]

def TypeTable.toJson (t : TypeTable) : Json :=
  .obj (t.entries.map fun e => (toString e.1.toNat, .str e.2))

def Sizes.toJson (s : Sizes) : Json :=
  .obj [("word_size", .num s.wordSize.toNat), ("max_align", .num s.maxAlign.toNat)]

/-- A dump in its declared shape. -/
def UnitFile.toJson (f : UnitFile) : Json :=
  .obj [("unit", f.unit.toJson), ("package", f.package.toJson), ("types", TypeTable.toJson f.types),
    ("sizes", f.sizes.toJson)]

end Rulebook
