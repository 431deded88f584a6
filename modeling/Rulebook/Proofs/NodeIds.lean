import Mathlib.Data.List.Nodup
import Rulebook.Proofs.Dumps

/-!
# Ids of nodes

A node is looked up by its id, so an id should stand for one node of its unit. A node that is pushed
is given the number of the nodes before it, whatever their ids are.

**Theorem (`nodup_ids_pushed`).** In a unit with distinct ids, a push changes what is found under
the new id only. After any number of pushes the ids are distinct, and each node is found under its
own id, if no node that was there before has one of the numbers that the pushes give out. If one
has, they are not distinct.

A single push appends one id (`ids_pushNode`). By induction on the nodes that are pushed, a sequence
of pushes appends the numbers from that of the nodes on (`ids_pushAll`), and these are distinct as
long as they are ids at all. Ids below the number of the nodes are not among them, so every unit
that is put together by pushes is as it should be (`nodup_ids_pushAll_of_lt`). A unit that is read
from a dump has the ids of the dump, and pushes may repeat one (`not_nodup_ids_pushed_dump`).
-/

namespace Rulebook

/-- What is given of a node that is pushed. -/
structure NewNode where
  kind : String
  span : Span := {}
  text : String := ""

namespace SourceUnit

variable {u : SourceUnit}

/-- The ids of the nodes, in the order of the nodes. -/
def ids (u : SourceUnit) : List NodeId := u.nodes.toList.map Node.id

/-- Appends one node after the other. -/
def pushAll (u : SourceUnit) (pushed : List NewNode) : SourceUnit :=
  pushed.foldl (fun u n => u.pushNode n.kind n.span n.text) u

/-- Every node is found under its own id. -/
def FindsNodes (u : SourceUnit) : Prop := ∀ n ∈ u.nodes, u.node? n.id = some n

/-- None of the nodes has one of the numbers that the next `count` pushes give out. -/
def Spares (u : SourceUnit) (count : Nat) : Prop :=
  ∀ id ∈ u.ids, id.toNat < u.nodes.size ∨ u.nodes.size + count ≤ id.toNat

instance (count : Nat) : Decidable (u.Spares count) :=
  List.decidableBAll
    (fun id : NodeId => id.toNat < u.nodes.size ∨ u.nodes.size + count ≤ id.toNat) u.ids

/-! ## Looking up -/

theorem node?_eq_none_iff {id : NodeId} : u.node? id = none ↔ id ∉ u.ids := by
  simp [node?, ids]

theorem findsNodes_of_nodup (h : u.ids.Nodup) : u.FindsNodes := by
  intro n hn
  cases hfound : u.node? n.id with
  | none =>
    have hid : n.id ∈ u.ids := List.mem_map_of_mem (Array.mem_toList_iff.2 hn)
    exact absurd hid (node?_eq_none_iff.1 hfound)
  | some m =>
    have hm : m ∈ u.nodes := Array.mem_of_find?_eq_some hfound
    have hid : m.id = n.id := by simpa using Array.find?_some hfound
    have hmn : m = n := List.inj_on_of_nodup_map h (Array.mem_toList_iff.2 hm)
      (Array.mem_toList_iff.2 hn) hid
    rw [hmn]

/-! ## One push -/

section OnePush

variable {kind : String} {span : Span} {text : String}

theorem size_pushNode : (u.pushNode kind span text).nodes.size = u.nodes.size + 1 :=
  Array.size_push _

theorem ids_pushNode : (u.pushNode kind span text).ids = u.ids ++ [u.nextId] := by
  simp [ids, pushNode]

/-- What is found first stays, and the pushed node is found if nothing else is. -/
theorem node?_pushNode (id : NodeId) : (u.pushNode kind span text).node? id =
    (u.node? id).or (if u.nextId = id then some ⟨u.nextId, kind, span, text⟩ else none) := by
  simp [node?, pushNode, Array.find?_push]

theorem node?_pushNode_of_ne {id : NodeId} (h : id ≠ u.nextId) :
    (u.pushNode kind span text).node? id = u.node? id := by
  rw [node?_pushNode, if_neg h.symm, Option.or_none]

theorem node?_pushNode_of_not_mem (h : u.nextId ∉ u.ids) :
    (u.pushNode kind span text).node? u.nextId = some ⟨u.nextId, kind, span, text⟩ := by
  rw [node?_pushNode, node?_eq_none_iff.2 h, if_pos rfl, Option.none_or]

end OnePush

/-! ## Any number of pushes -/

/-- The pushed nodes are numbered on from the number of the nodes. -/
theorem ids_pushAll (u : SourceUnit) (pushed : List NewNode) : (u.pushAll pushed).ids =
    u.ids ++ (List.range' u.nodes.size pushed.length).map Nat.toUInt32 := by
  induction pushed generalizing u with
  | nil => simp [pushAll]
  | cons n pushed ih =>
    have hstep : u.pushAll (n :: pushed) = (u.pushNode n.kind n.span n.text).pushAll pushed := rfl
    rw [hstep, ih, ids_pushNode, size_pushNode, List.length_cons, List.range'_succ, List.map_cons,
      List.append_assoc]
    rfl

theorem toNat_toUInt32_of_mem_range' {start count n : Nat} (h : start + count ≤ UInt32.size)
    (hn : n ∈ List.range' start count) : n.toUInt32.toNat = n := by
  have hlt : n < start + count := (List.mem_range'_1.1 hn).2
  exact UInt32.toNat_ofNat_of_lt' (Nat.lt_of_lt_of_le hlt h)

/-- The numbers that are given out are distinct as long as they are ids. -/
theorem nodup_map_toUInt32_range' {start count : Nat} (h : start + count ≤ UInt32.size) :
    ((List.range' start count).map Nat.toUInt32).Nodup := by
  apply List.Nodup.map_on _ List.nodup_range'
  intro m hm n hn heq
  rw [← toNat_toUInt32_of_mem_range' h hm, heq, toNat_toUInt32_of_mem_range' h hn]

/-- After a sequence of pushes the ids are distinct if they were before and no number is given out
again. -/
theorem nodup_ids_pushAll_iff {pushed : List NewNode}
    (h : u.nodes.size + pushed.length ≤ UInt32.size) :
    (u.pushAll pushed).ids.Nodup ↔ u.ids.Nodup ∧ u.Spares pushed.length := by
  have hgiven (id : NodeId) :
      id ∈ (List.range' u.nodes.size pushed.length).map Nat.toUInt32 ↔
        u.nodes.size ≤ id.toNat ∧ id.toNat < u.nodes.size + pushed.length := by
    rw [List.mem_map, ← List.mem_range'_1]
    constructor
    · intro hid
      obtain ⟨n, hn, rfl⟩ := hid
      rwa [toNat_toUInt32_of_mem_range' h hn]
    · intro hid
      exact ⟨id.toNat, hid, UInt32.ofNat_toNat⟩
  have hdisjoint : u.ids.Disjoint ((List.range' u.nodes.size pushed.length).map Nat.toUInt32) ↔
      u.Spares pushed.length := by
    refine forall₂_congr fun id _ => ?_
    rw [hgiven, imp_false, not_and_or, Nat.not_le, Nat.not_lt]
  rw [ids_pushAll, List.nodup_append', hdisjoint]
  simp only [nodup_map_toUInt32_range' h, true_and]

/-- Ids below the number of the nodes are not given out again. Such are the ids of a unit without
nodes, and so of every unit that is put together by pushes. -/
theorem nodup_ids_pushAll_of_lt {pushed : List NewNode} (hids : u.ids.Nodup)
    (hlt : ∀ id ∈ u.ids, id.toNat < u.nodes.size)
    (h : u.nodes.size + pushed.length ≤ UInt32.size) :
    (u.pushAll pushed).ids.Nodup ∧ (u.pushAll pushed).FindsNodes := by
  have hspares : u.Spares pushed.length := fun id hid => .inl (hlt id hid)
  have hnodup : (u.pushAll pushed).ids.Nodup := (nodup_ids_pushAll_iff h).2 ⟨hids, hspares⟩
  exact ⟨hnodup, findsNodes_of_nodup hnodup⟩

/-- **Ids of pushed nodes.** In a unit with distinct ids, a push changes what is found under the new
id only. The ids are still distinct after a push, or after any number of them, when no node has a
number that is given out, and not otherwise. Every pushed node is then found under its id, and so is
every other node. -/
theorem nodup_ids_pushed (hids : u.ids.Nodup) :
    (∀ kind span text,
      ((u.pushNode kind span text).ids.Nodup ↔ u.nextId ∉ u.ids) ∧
      (u.nextId ∉ u.ids → (u.pushNode kind span text).node? u.nextId =
        some ⟨u.nextId, kind, span, text⟩) ∧
      ∀ id ≠ u.nextId, (u.pushNode kind span text).node? id = u.node? id) ∧
    ∀ pushed, u.nodes.size + pushed.length ≤ UInt32.size →
      ((u.pushAll pushed).ids.Nodup ↔ u.Spares pushed.length) ∧
      (u.Spares pushed.length → (u.pushAll pushed).FindsNodes) := by
  constructor
  · intro kind span text
    refine ⟨?_, node?_pushNode_of_not_mem, fun id => node?_pushNode_of_ne⟩
    simp [ids_pushNode, List.nodup_append', hids]
  · intro pushed h
    have hnodup : (u.pushAll pushed).ids.Nodup ↔ u.Spares pushed.length := by
      simp only [nodup_ids_pushAll_iff h, hids, true_and]
    exact ⟨hnodup, fun hspares => findsNodes_of_nodup (hnodup.2 hspares)⟩

/-- Two nodes of which the second has the number of a node that is still to come. -/
def gapped : SourceUnit where
  path := "p"
  nodes := #[⟨0, "call", {}, "x"⟩, ⟨5, "call", {}, "y"⟩]

/-- Three nodes can be pushed, and a fourth would get the number that is taken. -/
theorem nodup_ids_pushed_gapped :
    let n : NewNode := ⟨"ident", {}, "z"⟩
    gapped.ids.Nodup ∧
    (gapped.pushNode n.kind n.span n.text).ids.Nodup ∧
    (gapped.pushNode n.kind n.span n.text).node? 2 = some ⟨2, "ident", {}, "z"⟩ ∧
    (gapped.pushNode n.kind n.span n.text).node? 5 = some ⟨5, "call", {}, "y"⟩ ∧
    (gapped.pushAll [n, n, n]).FindsNodes ∧ ¬ (gapped.pushAll [n, n, n, n]).ids.Nodup := by
  intro n
  have hids : gapped.ids.Nodup := by decide
  have hfresh : gapped.nextId ∉ gapped.ids := by decide
  obtain ⟨hone, hall⟩ := nodup_ids_pushed hids
  obtain ⟨hnodup, hpushed, hother⟩ := hone n.kind n.span n.text
  obtain ⟨-, hthree⟩ := hall [n, n, n] (by decide)
  obtain ⟨hfour, -⟩ := hall [n, n, n, n] (by decide)
  exact ⟨hids, hnodup.2 hfresh, hpushed hfresh, hother 5 (by decide), hthree (by decide),
    mt hfour.1 (by decide)⟩

/-- A dump of a unit whose only node has the id 1, with its type. -/
def numberedFromOne : UnitFile where
  unit := ⟨"p", "", "", #[⟨1, "call", {}, "x"⟩]⟩
  types := .ofList [(1, "int")]

/-- A dump may number its nodes in its own way. The node that is pushed to this one has the id of
the node that is there; it is not found, and is taken to have the type of the other. -/
theorem not_nodup_ids_pushed_dump :
    UnitFile.parse numberedFromOne.toJson.toLine = .ok numberedFromOne ∧
    numberedFromOne.unit.ids.Nodup ∧ numberedFromOne.unit.nodes.size < UInt32.size ∧
    ¬ (numberedFromOne.unit.pushNode "ident" {} "y").ids.Nodup ∧
    (numberedFromOne.unit.pushNode "ident" {} "y").node? numberedFromOne.unit.nextId =
      some ⟨1, "call", {}, "x"⟩ ∧
    numberedFromOne.types.find? numberedFromOne.unit.nextId = some "int" := by
  have hparse (f : UnitFile) : UnitFile.parse f.toJson.toLine = .ok f := by
    unfold UnitFile.parse Json.decode
    rw [Json.read_of_writes (Json.writes_toLine _)]
    simp [UnitFile.ofData_of_writtenAs f.writtenAs_toJson]
  exact ⟨hparse numberedFromOne, by decide, by decide, by decide, by decide, by decide⟩

end SourceUnit

end Rulebook
