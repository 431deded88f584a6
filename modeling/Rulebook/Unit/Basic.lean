import Rulebook.Sorted.Set

/-!
# Units of source

A unit is one source file as its front end has read it: the text, and the nodes in the order in
which the front end visits them. Beside the unit stand what is known of its package, the types of
its nodes, and the sizes of the platform.
-/

namespace Rulebook

/-- The bytes of a source text from `start` up to and not including `stop`. -/
structure Span where
  start : UInt32 := 0
  stop : UInt32 := 0
  deriving Repr, DecidableEq, Inhabited

/-- The number that stands for a node within its unit. -/
abbrev NodeId := UInt32

/-- A node of a syntax tree: its kind, what it covers, and the text of that. -/
structure Node where
  id : NodeId
  kind : String
  span : Span := {}
  text : String := ""
  deriving Repr, DecidableEq, Inhabited

/-- A node as messages name it. -/
def Node.label (id : NodeId) : String := s!"#{id}"

/-- A source file with its nodes. -/
structure SourceUnit where
  path : String
  package : String := ""
  source : String := ""
  nodes : Array Node := #[]
  deriving Repr, DecidableEq, Inhabited

namespace SourceUnit

/-- The id of the node pushed next: the number of the nodes there are. -/
def nextId (u : SourceUnit) : NodeId := u.nodes.size.toUInt32

/-- Appends a node. -/
def pushNode (u : SourceUnit) (kind : String) (span : Span) (text : String) : SourceUnit :=
  { u with nodes := u.nodes.push ⟨u.nextId, kind, span, text⟩ }

/-- The first node with an id. -/
def node? (u : SourceUnit) (id : NodeId) : Option Node := u.nodes.find? fun n => n.id = id

end SourceUnit

/-- A package: its import path, its name, what it declares and what it imports. -/
structure Package where
  path : String := ""
  name : String := ""
  symbols : SortedSet String := ∅
  imports : SortedSet String := ∅
  deriving DecidableEq, Inhabited

/-- The types of nodes, as far as they are known. -/
abbrev TypeTable := SortedMap NodeId String

/-- The sizes of the platform in bytes. -/
structure Sizes where
  wordSize : UInt64 := 8
  maxAlign : UInt64 := 8
  deriving Repr, DecidableEq, Inhabited

end Rulebook
