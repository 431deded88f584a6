import Mathlib
import Rulebook.Regex

/-!
# The names of groups

Named groups are told apart by their names alone: a template refers to a group by its name, and what
a group captured is kept under its name.

**Theorem (`nodup_groupNames`).** No two groups of a compiled pattern share a name.

The reader of patterns remembers the names that it has given and refuses to give one again. Most of
its steps give no name, which is stated of each of them once. The others are the five that call one
another, and for them the induction on the fuel carries one invariant (`Given`): the names in what
has been read so far are among the names given, each no more often than it was given. What a group
around holds ready is carried along as a list of further names.
-/

open Std.Do

set_option mvcgen.warning false

namespace Rulebook.Regex

/-! ## The names in an expression -/

namespace Expr

/-- The names of the groups in an expression. -/
def names (e : Expr) : List String := e.groups.filterMap Prod.snd

theorem names_seq (a b : Expr) : (seq a b).names = a.names ++ b.names := List.filterMap_append

theorem names_alt (a b : Expr) : (alt a b).names = a.names ++ b.names := List.filterMap_append

@[simp]
theorem names_set (s : CharSet) : (set s).names = [] := rfl

@[simp]
theorem names_look (l : Look) : (look l).names = [] := rfl

@[simp]
theorem names_empty : empty.names = [] := rfl

@[simp]
theorem names_group (i : Nat) (name : Option String) (e : Expr) :
    (group i name e).names = name.toList ++ e.names := by
  cases name <;> rfl

theorem names_sequence (es : List Expr) : (sequence es).names = es.flatMap names := by
  induction es using sequence.induct with
  | case1 => rfl
  | case2 e => exact (List.append_nil e.names).symm
  | case3 e es hne ih =>
    rw [sequence, names_seq, ih, List.flatMap_cons]
    exact hne

theorem names_alternation (es : List Expr) : (alternation es).names = es.flatMap names := by
  induction es using alternation.induct with
  | case1 => rfl
  | case2 e => exact (List.append_nil e.names).symm
  | case3 e es hne ih =>
    rw [alternation, names_alt, ih, List.flatMap_cons]
    exact hne

/-- Alternatives that are all single sets have no groups. -/
theorem names_alternatives (es : List Expr) :
    (alternatives es).names.Sublist (es.flatMap names) := by
  unfold alternatives
  split
  · exact List.nil_sublist _
  · rw [names_alternation]

/-- No repetition at all drops the groups inside. -/
theorem names_repeated (min : Nat) (max : Option Nat) (greedy : Bool) (e : Expr) :
    (e.repeated min max greedy).names.Sublist e.names := by
  unfold repeated
  extract_lets min' max'
  split
  · exact List.nil_sublist _
  · split <;> exact List.Sublist.refl _

end Expr

/-! ## Steps that give no name -/

namespace Reader

/-- These are the names given so far. -/
abbrev Named (n : List String) : Assertion (.arg ParseState (.except PUnit .pure)) :=
  fun s => ⌜s.names = n⌝

variable (n : List String)

/-- Whatever is said of what a step gives holds of a step that fails. -/
@[spec]
theorem fail_spec {α : Type} (Q : α → Assertion (.arg ParseState (.except PUnit .pure))) :
    ⦃⌜True⌝⦄ (fail : Reader α) ⦃⇓? a => Q a⦄ := by
  intro s _
  trivial

@[spec]
theorem peek_spec : ⦃Named n⦄ peek ⦃⇓? _ => Named n⦄ := by
  mvcgen [peek]

@[spec]
theorem second_spec : ⦃Named n⦄ second ⦃⇓? _ => Named n⦄ := by
  mvcgen [second]

@[spec]
theorem flags_spec : ⦃Named n⦄ flags ⦃⇓? _ => Named n⦄ := by
  mvcgen [flags]

@[spec]
theorem drop_spec (k : Nat) : ⦃Named n⦄ drop k ⦃⇓? _ => Named n⦄ := by
  mvcgen [drop]

@[spec]
theorem guard_spec (b : Bool) :
    ⦃Named n⦄ guard b ⦃⇓? _ => fun s => ⌜s.names = n ∧ b = true⌝⦄ := by
  mvcgen [guard]

@[spec]
theorem next_spec : ⦃Named n⦄ next ⦃⇓? _ => Named n⦄ := by
  mvcgen [next]

@[spec]
theorem eat_spec (text : String) : ⦃Named n⦄ eat text ⦃⇓? _ => Named n⦄ := by
  mvcgen [eat]
  simp_all

@[spec]
theorem skipSpace_spec : ⦃Named n⦄ skipSpace ⦃⇓? _ => Named n⦄ := by
  intro s hs
  change (if s.flags.extended then _ else _ : ParseState).names = n
  split <;> exact hs

@[spec]
theorem nextSkip_spec : ⦃Named n⦄ nextSkip ⦃⇓? _ => Named n⦄ := by
  mvcgen [nextSkip]
  simp_all

@[spec]
theorem scalar_spec (k : Nat) : ⦃Named n⦄ scalar k ⦃⇓? _ => Named n⦄ := by
  mvcgen [scalar]

@[spec]
theorem hexDigits_spec (k : Nat) : ⦃Named n⦄ hexDigits k ⦃⇓? _ => Named n⦄ := by
  induction k with
  | zero => mvcgen [hexDigits]
  | succ k ih =>
    mvcgen [hexDigits, ih]
    simp_all

@[spec]
theorem untilBrace_spec (fuel : Nat) : ⦃Named n⦄ untilBrace fuel ⦃⇓? _ => Named n⦄ := by
  induction fuel with
  | zero => mvcgen [untilBrace]
  | succ fuel ih => mvcgen [untilBrace, ih] <;> simp_all

@[spec]
theorem hexEscape_spec (width : Nat) : ⦃Named n⦄ hexEscape width ⦃⇓? _ => Named n⦄ := by
  mvcgen [hexEscape] <;> simp_all

@[spec]
theorem finishSet_spec (negated : Bool) (s : CharSet) :
    ⦃Named n⦄ finishSet negated s ⦃⇓? _ => Named n⦄ := by
  mvcgen [finishSet] <;> simp_all

@[spec]
theorem propertyEscape_spec (negated : Bool) :
    ⦃Named n⦄ propertyEscape negated ⦃⇓? _ => Named n⦄ := by
  mvcgen [propertyEscape] <;> simp_all

@[spec]
theorem shorthand_spec (unicode ascii : CharSet) (negated : Bool) :
    ⦃Named n⦄ shorthand unicode ascii negated ⦃⇓? _ => Named n⦄ := by
  mvcgen [shorthand] <;> simp_all

@[spec]
theorem namedBoundary_spec (unicode : Bool) :
    ⦃Named n⦄ namedBoundary unicode ⦃⇓? _ => Named n⦄ := by
  mvcgen [namedBoundary] <;> simp_all

@[spec]
theorem escape_spec : ⦃Named n⦄ escape ⦃⇓? _ => Named n⦄ := by
  mvcgen [escape] <;> simp_all

@[spec]
theorem literal_spec (c : Char) :
    ⦃Named n⦄ literal c ⦃⇓? e => fun s => ⌜s.names = n ∧ e.names = []⌝⦄ := by
  mvcgen [literal] <;> simp_all

@[spec]
theorem toExpr_spec (p : Primitive) :
    ⦃Named n⦄ Primitive.toExpr p ⦃⇓? e => fun s => ⌜s.names = n ∧ e.names = []⌝⦄ := by
  mvcgen [Primitive.toExpr]

@[spec]
theorem dot_spec : ⦃Named n⦄ dot ⦃⇓? e => fun s => ⌜s.names = n ∧ e.names = []⌝⦄ := by
  mvcgen [dot] <;> simp_all

@[spec]
theorem lineStart_spec : ⦃Named n⦄ lineStart ⦃⇓? e => fun s => ⌜s.names = n ∧ e.names = []⌝⦄ := by
  mvcgen [lineStart]
  simp_all

@[spec]
theorem lineEnd_spec : ⦃Named n⦄ lineEnd ⦃⇓? e => fun s => ⌜s.names = n ∧ e.names = []⌝⦄ := by
  mvcgen [lineEnd]
  simp_all

@[spec]
theorem close_spec (st : SetState) : ⦃Named n⦄ SetState.close st ⦃⇓? _ => Named n⦄ := by
  mvcgen [SetState.close]
  simp_all

@[spec]
theorem classLiteral_spec (c : Char) : ⦃Named n⦄ classLiteral c ⦃⇓? _ => Named n⦄ := by
  mvcgen [classLiteral]
  simp_all

@[spec]
theorem classItem_spec : ⦃Named n⦄ classItem ⦃⇓? _ => Named n⦄ := by
  mvcgen [classItem] <;> simp_all

@[spec]
theorem toSet_spec (p : Primitive) : ⦃Named n⦄ Primitive.toSet p ⦃⇓? _ => Named n⦄ := by
  mvcgen [Primitive.toSet]

@[spec]
theorem toCode_spec (p : Primitive) : ⦃Named n⦄ Primitive.toCode p ⦃⇓? _ => Named n⦄ := by
  mvcgen [Primitive.toCode]
  simp_all

@[spec]
theorem peekPastSpace_spec : ⦃Named n⦄ peekPastSpace ⦃⇓? _ => Named n⦄ := by
  mvcgen [peekPastSpace]

@[spec]
theorem classRange_spec : ⦃Named n⦄ classRange ⦃⇓? _ => Named n⦄ := by
  mvcgen [classRange] <;> simp_all

@[spec]
theorem asciiClass_spec : ⦃Named n⦄ asciiClass ⦃⇓? _ => Named n⦄ := by
  mvcgen [asciiClass]
  simp_all
  assumption

@[spec]
theorem leadingHyphens_spec (fuel : Nat) (st : SetState) :
    ⦃Named n⦄ leadingHyphens fuel st ⦃⇓? _ => Named n⦄ := by
  induction fuel generalizing st with
  | zero => mvcgen [leadingHyphens]
  | succ fuel ih => mvcgen [leadingHyphens, ih] <;> simp_all

@[spec]
theorem classOpen_spec : ⦃Named n⦄ classOpen ⦃⇓? _ => Named n⦄ := by
  mvcgen [classOpen] <;> simp_all

@[spec]
theorem classBody_spec (fuel : Nat) (negated : Bool) (st : SetState) :
    ⦃Named n⦄ classBody fuel negated st ⦃⇓? _ => Named n⦄ := by
  induction fuel generalizing negated st with
  | zero => mvcgen [classBody]
  | succ fuel ih => mvcgen [classBody, ih] <;> simp_all

@[spec]
theorem bracketed_spec :
    ⦃Named n⦄ bracketed ⦃⇓? item => fun s => ⌜s.names = n ∧ item.expr.names = []⌝⦄ := by
  mvcgen [bracketed]
  simp_all

@[spec]
theorem skipBlanks_spec : ⦃Named n⦄ skipBlanks ⦃⇓? _ => Named n⦄ := by
  mvcgen [skipBlanks]

@[spec]
theorem countDigits_spec (fuel : Nat) : ⦃Named n⦄ countDigits fuel ⦃⇓? _ => Named n⦄ := by
  induction fuel with
  | zero => mvcgen [countDigits]
  | succ fuel ih => mvcgen [countDigits, ih] <;> simp_all

@[spec]
theorem count_spec : ⦃Named n⦄ count ⦃⇓? _ => Named n⦄ := by
  mvcgen [count]
  simp_all

@[spec]
theorem greedyMark_spec : ⦃Named n⦄ greedyMark ⦃⇓? _ => Named n⦄ := by
  mvcgen [greedyMark]
  simp_all

@[spec]
theorem bounds_spec : ⦃Named n⦄ bounds ⦃⇓? _ => Named n⦄ := by
  mvcgen [bounds] <;> simp_all

@[spec]
theorem flagSwitches_spec (fuel : Nat) (seen : List Flag) (minus dangling : Bool) (f : Flags) :
    ⦃Named n⦄ flagSwitches fuel seen minus dangling f ⦃⇓? _ => Named n⦄ := by
  induction fuel generalizing seen minus dangling f with
  | zero => mvcgen [flagSwitches]
  | succ fuel ih => mvcgen [flagSwitches, ih] <;> simp_all

end Reader

/-! ## Steps that give names -/

/-- Names of which each occurs no more often than it was given, when no name was given twice. -/
structure Given (l names : List String) : Prop where
  nodup : names.Nodup
  subperm : l.Subperm names

/-- The names of the groups in some items. -/
def namesOf (items : List Item) : List String := items.flatMap fun item => item.expr.names

@[simp]
theorem namesOf_nil : namesOf [] = [] := rfl

@[simp]
theorem namesOf_cons (item : Item) (items : List Item) :
    namesOf (item :: items) = item.expr.names ++ namesOf items := List.flatMap_cons

theorem namesOf_reverse (items : List Item) :
    ((items.reverse.map Item.expr).flatMap Expr.names).Perm (namesOf items) := by
  rw [List.flatMap_map]
  exact items.reverse_perm.flatMap_right _

namespace Given

variable {l l' names n : List String}

theorem mono (h : Given l names) (hl : l'.Subperm l) : Given l' names :=
  ⟨h.nodup, hl.trans h.subperm⟩

theorem of_sublist (h : Given (l ++ n) names) (hl : l'.Sublist l) : Given (l' ++ n) names :=
  h.mono ((List.subperm_append_right n).2 hl.subperm)

/-- A name that has not been given can be given next. -/
theorem cons (h : Given l names) {name : String} (hname : name ∉ names) :
    Given (name :: l) (name :: names) :=
  ⟨List.nodup_cons.2 ⟨hname, h.nodup⟩, (List.subperm_cons name).2 h.subperm⟩

theorem joinItems {items : List Item} (h : Given (namesOf items ++ n) names) :
    Given ((Reader.joinItems items).expr.names ++ n) names := by
  refine h.mono ((List.subperm_append_right n).2 ?_)
  unfold Reader.joinItems
  split
  · simp [List.Subperm.refl]
  · rw [Expr.names_sequence]
    exact (namesOf_reverse items).subperm

theorem joinBranches {branches : List Item} (h : Given (namesOf branches ++ n) names) :
    Given ((Reader.joinBranches branches).expr.names ++ n) names := by
  refine h.mono ((List.subperm_append_right n).2 ?_)
  unfold Reader.joinBranches
  split
  · simp [List.Subperm.refl]
  · exact (Expr.names_alternatives _).subperm.trans (namesOf_reverse branches).subperm

/-- The name of a group is given before the names inside. -/
theorem group {capture : Option (Nat × Option String)} {e : Expr}
    (h : Given (e.names ++ ((capture.bind Prod.snd).toList ++ n)) names) :
    Given ((match capture with
      | some (index, name) => Expr.group index name e
      | none => e).names ++ n) names := by
  cases capture with
  | none => exact h
  | some g =>
    rw [Expr.names_group, List.append_assoc]
    exact h.mono (List.perm_append_comm_assoc _ _ _).subperm

end Given

namespace Reader

/-- Names that occur in what has been read, or are needed around it, have been given. -/
abbrev Gave (l : List String) : Assertion (.arg ParseState (.except PUnit .pure)) :=
  fun s => ⌜Given l s.names⌝

theorem groupName_spec (n : List String) :
    ⦃Gave n⦄ groupName ⦃⇓? name => Gave (name :: n)⦄ := by
  mvcgen [groupName]
  exact Given.cons ‹_› (by simp_all)

@[spec]
theorem repeatItem_spec (n : List String) (item : Item) (min : Nat) (max : Option Nat)
    (greedy : Bool) : ⦃Named n⦄ repeatItem item min max greedy
      ⦃⇓? item' => fun s => ⌜s.names = n ∧ item'.expr.names.Sublist item.expr.names⌝⦄ := by
  mvcgen [repeatItem]
  simp_all [Expr.names_repeated]

/-- What the steps that read groups and sequences keep up, as far as some fuel goes. -/
structure Sound (fuel : Nat) : Prop where
  alternatives (n : List String) (branches : List Item) :
    ⦃Gave (namesOf branches ++ n)⦄ alternatives fuel branches
      ⦃⇓? item => Gave (item.expr.names ++ n)⦄
  items (n : List String) (done : List Item) :
    ⦃Gave (namesOf done ++ n)⦄ items fuel done ⦃⇓? item => Gave (item.expr.names ++ n)⦄
  quantified (n : List String) (done : List Item) (min : Nat) (max : Option Nat) :
    ⦃Gave (namesOf done ++ n)⦄ quantified fuel done min max
      ⦃⇓? item => Gave (item.expr.names ++ n)⦄
  groupOrSwitch (n : List String) :
    ⦃Gave n⦄ groupOrSwitch fuel ⦃⇓? item => Gave (item.expr.names ++ n)⦄
  closeGroup (n : List String) (outer : Flags) (capture : Option (Nat × Option String)) :
    ⦃Gave ((capture.bind Prod.snd).toList ++ n)⦄ closeGroup fuel outer capture
      ⦃⇓? item => Gave (item.expr.names ++ n)⦄

theorem sound_zero : Sound 0 := by
  constructor <;> intros
  case alternatives => mvcgen [Reader.alternatives]
  case items => mvcgen [Reader.items]
  case quantified => mvcgen [Reader.quantified]
  case groupOrSwitch => mvcgen [Reader.groupOrSwitch]
  case closeGroup => mvcgen [Reader.closeGroup]

namespace Sound

variable {fuel : Nat} (n : List String)

theorem alternatives_succ (h : Sound fuel) (branches : List Item) :
    ⦃Gave (namesOf branches ++ n)⦄ Reader.alternatives (fuel + 1) branches
      ⦃⇓? item => Gave (item.expr.names ++ n)⦄ := by
  have hitems := h.items (namesOf branches ++ n) []
  have hrest := h.alternatives n
  mvcgen [Reader.alternatives, hitems, hrest] <;> clear hitems hrest <;> simp_all
  exact Given.joinBranches (by simp_all)

theorem items_succ (h : Sound fuel) (done : List Item) :
    ⦃Gave (namesOf done ++ n)⦄ Reader.items (fuel + 1) done
      ⦃⇓? item => Gave (item.expr.names ++ n)⦄ := by
  have hitems := h.items n
  have hquantified := h.quantified n
  have hgroup := h.groupOrSwitch (namesOf done ++ n)
  mvcgen [Reader.items, hitems, hquantified, hgroup] <;> clear hitems hquantified hgroup <;>
    simp_all [Given.joinItems]
  grind [Given.of_sublist]

theorem quantified_succ (h : Sound fuel) (done : List Item) (min : Nat) (max : Option Nat) :
    ⦃Gave (namesOf done ++ n)⦄ Reader.quantified (fuel + 1) done min max
      ⦃⇓? item => Gave (item.expr.names ++ n)⦄ := by
  have hitems := h.items n
  mvcgen [Reader.quantified, hitems]
  simp_all
  grind [Given.of_sublist]

theorem groupOrSwitch_succ (h : Sound fuel) :
    ⦃Gave n⦄ Reader.groupOrSwitch (fuel + 1) ⦃⇓? item => Gave (item.expr.names ++ n)⦄ := by
  have hname := groupName_spec n
  have hclose := h.closeGroup n
  mvcgen [Reader.groupOrSwitch, hname, hclose] <;> clear hname hclose <;> simp_all +zetaDelta

theorem closeGroup_succ (h : Sound fuel) (outer : Flags) (capture : Option (Nat × Option String)) :
    ⦃Gave ((capture.bind Prod.snd).toList ++ n)⦄ Reader.closeGroup (fuel + 1) outer capture
      ⦃⇓? item => Gave (item.expr.names ++ n)⦄ := by
  have halternatives := h.alternatives ((capture.bind Prod.snd).toList ++ n) []
  mvcgen [Reader.closeGroup, halternatives]
  simp_all
  exact Given.group ‹_›

end Sound

theorem sound (fuel : Nat) : Sound fuel := by
  induction fuel with
  | zero => exact sound_zero
  | succ fuel ih =>
    exact ⟨fun n => ih.alternatives_succ n, fun n => ih.items_succ n, fun n => ih.quantified_succ n,
      fun n => ih.groupOrSwitch_succ n, fun n => ih.closeGroup_succ n⟩

end Reader

/-- A step that succeeds gives what is said of it. -/
theorem Reader.of_run_eq_some {α : Type} {x : Reader α}
    {P : Assertion (.arg ParseState (.except PUnit .pure))}
    {Q : α → Assertion (.arg ParseState (.except PUnit .pure))} (h : ⦃P⦄ x ⦃⇓? a => Q a⦄)
    {s s' : ParseState} {a : α} (hrun : x.run s = some (a, s')) (hs : (P s).down) :
    (Q a s').down := by
  have hwp : (wp⟦x.run s⟧ (fun r => Q r.1 r.2, ExceptConds.true)).down := h s hs
  rw [hrun] at hwp
  exact hwp

/-- The names in a pattern are all different. -/
theorem nodup_names_of_parse?_eq_some {pattern : String} {e : Expr}
    (h : parse? pattern = some e) : e.names.Nodup := by
  unfold parse? at h
  obtain ⟨⟨item, state⟩, hread, h⟩ := Option.bind_eq_some_iff.1 h
  obtain ⟨_, _, hexpr⟩ := Option.bind_eq_some_iff.1 h
  cases hexpr
  have hstart : Given (namesOf [] ++ []) [] := ⟨List.nodup_nil, List.Subperm.refl []⟩
  have hgiven : Given (item.expr.names ++ []) state.names :=
    Reader.of_run_eq_some ((Reader.sound _).alternatives [] []) hread hstart
  rw [List.append_nil] at hgiven
  obtain ⟨names, hperm, hsub⟩ := hgiven.subperm
  exact hperm.nodup_iff.1 (hgiven.nodup.sublist hsub)

end Rulebook.Regex

namespace Rulebook

theorem Regex.groupNames_eq (r : Regex) : r.groupNames = r.expr.names := by
  unfold Regex.groupNames Regex.namedGroups Regex.Expr.names
  rw [List.map_filterMap]
  congr 1
  funext g
  cases g.2 <;> rfl

/-- **Names of groups.** No two groups of a compiled pattern share a name. -/
theorem Regex.nodup_groupNames {pattern : String} {r : Regex}
    (h : Regex.compile pattern = .ok r) : r.groupNames.Nodup := by
  rw [Regex.groupNames_eq]
  unfold Regex.compile at h
  split at h
  · cases h
  · next e hparse =>
    split at h
    · cases h
      exact Regex.nodup_names_of_parse?_eq_some hparse
    · cases h

end Rulebook
