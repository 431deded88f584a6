import Rulebook.Toml.Scalar
import Rulebook.Toml.Statement

/-!
# Documents

A document is the tree that statements build. A table is defined once: by a header, by dotted keys
or between braces. A header may define a table that so far only came with the name of a table
inside it, and dotted keys may extend only what dotted keys have begun. The keys of a finished
table are in byte order.
-/

namespace Rulebook.Toml

/-- Part of a document in progress. -/
inductive Item where
  /-- A finished value, tables between braces included. -/
  | value (d : Data)
  /-- A table. It is `implied` while only tables inside it have been named, and `dotted` when dotted
  keys began it. -/
  | table (place : Extent) (implied dotted : Bool) (entries : List (Key × Item))
  /-- A list of tables with one header each, last first. -/
  | tables (place : Extent) (elements : List Item)
  deriving Inhabited

/-- A table in progress. -/
structure Table where
  place : Extent
  implied : Bool
  dotted : Bool
  entries : List (Key × Item)
  deriving Inhabited

def Table.toItem (t : Table) : Item := .table t.place t.implied t.dotted t.entries

def Table.find? (t : Table) (key : Key) : Option Item :=
  (t.entries.find? fun e => e.1.text = key.text).map Prod.snd

def Table.erase (t : Table) (key : Key) : Table :=
  { t with entries := t.entries.filter fun e => e.1.text ≠ key.text }

/-- Puts a new entry first; the order of entries does not matter until the end. -/
def Table.insert (t : Table) (key : Key) (item : Item) : Table :=
  { t with entries := (key, item) :: t.entries }

def Table.replace (t : Table) (key : Key) (item : Item) : Table :=
  { t with entries := t.entries.map fun e => if e.1.text = key.text then (e.1, item) else e }

/-- Puts a field before the first that has no lesser key. -/
def insertField (field : Key × Data) : List (Key × Data) → List (Key × Data)
  | [] => [field]
  | next :: fields =>
    if field.1.text.getD "" ≤ next.1.text.getD "" then field :: next :: fields
    else next :: insertField field fields

/-- Fields in byte order of their keys. -/
def sortFields (fields : List (Key × Data)) : List (Key × Data) := fields.foldr insertField []

mutual

/-- The finished tree of a part. -/
def Item.toData : Item → Data
  | .value d => d
  | .table place _ _ entries => .record place (sortFields (Item.entriesToData entries)) .loose
  | .tables place elements => .list place (Item.elementsToData elements).reverse .loose

def Item.entriesToData : List (Key × Item) → List (Key × Data)
  | [] => []
  | (key, item) :: rest => (key, item.toData) :: Item.entriesToData rest

def Item.elementsToData : List Item → List Data
  | [] => []
  | item :: rest => item.toData :: Item.elementsToData rest

end

/-- A fault at a key. -/
def atKey {α : Type} (key : Key) : Except SyntaxError α := .error ⟨key.place.start⟩

/-- Changes the table at the end of a path. Tables on the way that are missing come into being. A
list of tables stands for its last element. -/
def descend (dotted : Bool) (change : Table → Except SyntaxError Table) :
    List Key → Table → Except SyntaxError Table
  | [], t => change t
  | key :: path, t =>
    match t.find? key with
    | none => do
      let inner ← descend dotted change path ⟨key.place, true, dotted, []⟩
      return t.insert key inner.toItem
    | some (.table place implied isDotted entries) =>
      if dotted && !implied then atKey key
      else do
        let inner ← descend dotted change path ⟨place, implied, isDotted, entries⟩
        return t.replace key inner.toItem
    | some (.tables place (.table p implied isDotted entries :: others)) => do
      let inner ← descend dotted change path ⟨p, implied, isDotted, entries⟩
      return t.replace key (.tables place (inner.toItem :: others))
    | some _ => atKey key

/-- Adds a value under a path of keys. The last key has to be new, and dotted keys do not add to a
table that was not begun by dotted keys. -/
def addEntry (path : List Key) (key : Key) (item : Item) (t : Table) : Except SyntaxError Table :=
  descend (!path.isEmpty) (fun parent =>
    if !path.isEmpty && !parent.dotted then atKey key
    else if path.isEmpty && parent.dotted then atKey key
    else if (parent.find? key).isSome then atKey key
    else .ok (parent.insert key item)) path t

/-! ## Keys and values -/

def isBareKeyChar (c : Char) : Bool := c.isAlphanum || c = '_' || c = '-'

/-- What a key denotes. Bare keys are ASCII letters, digits, hyphens and underscores, and strings
over several lines are no keys. -/
def decodeKey (t : Token) : Except SyntaxError Key :=
  let key (s : String) : Key := ⟨String.ofList t.text, some s, t.place⟩
  match t.kind with
  | .atom =>
    if !t.text.isEmpty && t.text.all isBareKeyChar then .ok (key (String.ofList t.text))
    else .error ⟨t.place.start⟩
  | .basic | .literal =>
    match stringText t.kind t.text with
    | .ok s => .ok (key s)
    | .error rest => .error ⟨t.place.stop - byteLength rest⟩
  | _ => .error ⟨t.place.start⟩

/-- The keys of a path, the last one apart. -/
def decodePath (path : List Token) : Except SyntaxError (List Key × Key) := do
  let keys ← path.mapM decodeKey
  match keys.getLast? with
  | some key => return (keys.dropLast, key)
  | none => .error ⟨0⟩

mutual

/-- The tree of a value. -/
def decodeValue : RawValue → Except SyntaxError Data
  | .scalar kind place text =>
    match kind with
    | .atom =>
      match atomScalar? text with
      | some s => .ok (.scalar place s)
      | none => .error ⟨place.start⟩
    | _ =>
      match stringText kind text with
      | .ok s => .ok (.scalar place (.text s))
      | .error rest => .error ⟨place.stop - byteLength rest⟩
  | .list place items => do return .list place (← decodeItems items) .loose
  | .table place entries => do
    let t ← decodeEntries ⟨place, false, false, []⟩ entries
    return t.toItem.toData

def decodeItems : List RawValue → Except SyntaxError (List Data)
  | [] => .ok []
  | v :: vs => do
    let d ← decodeValue v
    return d :: (← decodeItems vs)

def decodeEntries (t : Table) : List (List Token × RawValue) → Except SyntaxError Table
  | [] => .ok t
  | (path, v) :: rest => do
    let (path, key) ← decodePath path
    let d ← decodeValue v
    decodeEntries (← addEntry path key (.value d) t) rest

end

/-! ## Statements -/

/-- A header that has been met: the table it opens is finished by the next header. -/
structure Opened where
  element : Bool
  path : List Key
  key : Key
  place : Extent

/-- The document so far and the table that entries go to. -/
structure Builder where
  root : Table
  current : Table
  opened : Option Opened

/-- Puts the current table in its place. -/
def Builder.finish (b : Builder) : Except SyntaxError Table :=
  match b.opened with
  | none => .ok b.current
  | some o =>
    descend false (fun parent =>
      let item := b.current.toItem
      if o.element then
        match parent.find? o.key with
        | none => .ok (parent.insert o.key (.tables o.place [item]))
        | some (.tables place elements) =>
          .ok (parent.replace o.key (.tables place (item :: elements)))
        | some _ => atKey o.key
      else .ok (parent.insert o.key item)) o.path b.root

/-- The table at the end of a path of header keys, if it has been named. -/
def tableAt : List Key → Table → Except SyntaxError (Option Table)
  | [], t => .ok (some t)
  | key :: path, t =>
    match t.find? key with
    | none => .ok none
    | some (.table place implied dotted entries) => tableAt path ⟨place, implied, dotted, entries⟩
    | some (.tables _ (.table place implied dotted entries :: _)) =>
      tableAt path ⟨place, implied, dotted, entries⟩
    | some _ => atKey key

/-- Opens a table. One that only came with the name of a table inside it keeps what it holds. -/
def Builder.start (root : Table) (o : Opened) : Except SyntaxError Builder :=
  let fresh : Table := ⟨o.place, false, false, []⟩
  if o.element then .ok ⟨root, fresh, some o⟩
  else do
    let parent ← tableAt o.path root
    match parent.bind fun t => t.find? o.key with
    | none => return ⟨root, fresh, some o⟩
    | some (.table _ true false entries) =>
      let root ← descend false (fun parent => .ok (parent.erase o.key)) o.path root
      return ⟨root, { fresh with entries := entries }, some o⟩
    | some _ => atKey o.key

def Builder.step (b : Builder) : Statement → Except SyntaxError Builder
  | .header element place path => do
    let root ← b.finish
    let (path, key) ← decodePath path
    Builder.start root ⟨element, path, key, place⟩
  | .entry path v => do
    let (path, key) ← decodePath path
    let d ← decodeValue v
    return { b with current := ← addEntry path key (.value d) b.current }

/-- The document of a text. -/
def parse (text : String) : Except SyntaxError Data := do
  let ss ← statements text
  let root : Table := ⟨⟨0, text.utf8ByteSize⟩, false, false, []⟩
  let b ← ss.foldlM Builder.step ⟨root, root, none⟩
  return (← b.finish).toItem.toData

end Rulebook.Toml
