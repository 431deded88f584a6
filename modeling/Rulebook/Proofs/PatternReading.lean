import Rulebook.Proofs.Failures
import Rulebook.Proofs.PatternTexts

/-!
# How patterns over stored paths are read

A pattern is read step by step (`readFrom_succ_cons`), and the fuel is only there to bound the steps
(`readFrom_congr_fuel`). What the user wrote is read twice: by itself, and behind the path of the
root, every character of which is to stand for itself.

**Theorem (`parse_behind`).** A text without a backslash that is escaped, followed by a slash and a
pattern, is read as parts that stand for the characters of the text, followed by what the pattern is
read as behind a slash.

**Theorem (`isOk_readBelow`).** A pattern is well formed behind a slash exactly if it is well
formed.

For the first, two states are followed that have read the same, one of them behind parts that were
read before (`Behind`): each step keeps them so (`Behind.take`), since a `**` only ever changes the
last part, and that is never one of those in front. For the second, two states are followed that
have nothing in common but the number of open groups (`isOk_read_congr`): all else that a step looks
at decides which parts are read and not whether they are.
-/

namespace Rulebook.Glob.Stored

open String (utf8EncodeChar)

/-- What a step of reading comes to: the state, the character read last, and the rest. -/
structure Step where
  state : State
  last : Char
  rest : List Char

/-- One step of reading. -/
def State.take (st : State) (before : Option Char) (c : Char) (cs : List Char) :
    Except Fault Step :=
  match c with
  | '?' => .ok ⟨st.push .any, c, cs⟩
  | '*' =>
    match cs with
    | '*' :: rest =>
      let (st, slashTaken) := st.doubleStar before rest.head?
      if slashTaken then .ok ⟨st, '/', rest.tail⟩ else .ok ⟨st, '*', rest⟩
    | _ => .ok ⟨st.push .star, c, cs⟩
  | '[' => do
    let (negated, body) := match cs with
      | '!' :: rest => (true, rest)
      | '^' :: rest => (true, rest)
      | _ => (false, cs)
    let (ranges, rest) ← classBody {} true body
    return ⟨st.push (.class negated ranges), ']', rest⟩
  | '\x7b' => .ok ⟨⟨[], ([], st.parts) :: st.groups⟩, c, cs⟩
  | '\x7d' =>
    match st.groups with
    | [] => .error .unopenedAlternates
    | (branches, outer) :: rest =>
      .ok ⟨⟨Part.alternates (st.parts.reverse :: branches).reverse :: outer, rest⟩, c, cs⟩
  | ',' =>
    match st.groups with
    | [] => .ok ⟨st.push (.literal c), c, cs⟩
    | (branches, outer) :: rest =>
      .ok ⟨⟨[], (st.parts.reverse :: branches, outer) :: rest⟩, c, cs⟩
  | '\\' =>
    match cs with
    | [] => .error .danglingEscape
    | e :: rest => .ok ⟨st.push (.literal e), e, rest⟩
  | c => .ok ⟨st.push (.literal c), c, cs⟩

theorem readFrom_succ_cons (fuel : Nat) (st : State) (before : Option Char) (c : Char)
    (cs : List Char) :
    readFrom (fuel + 1) st before (c :: cs) =
      st.take before c cs >>= fun s => readFrom fuel s.state (some s.last) s.rest := by
  fun_cases State.take st before c cs <;> (conv => lhs; unfold readFrom)
  case case5 negated body hbody =>
    split at hbody <;> cases hbody <;> cases hclass : classBody {} true _ <;>
      simp [*, bind, Except.bind, pure, Except.pure]
  all_goals simp [*, bind, Except.bind]

/-! ## Fuel -/

theorem length_lt_of_classBody_eq_ok {st : ClassState} {first : Bool} {cs rest : List Char}
    {ranges : List (Char × Char)} (h : classBody st first cs = .ok (ranges, rest)) :
    rest.length < cs.length := by
  induction cs generalizing st first with
  | nil => cases h
  | cons c cs ih =>
    have hnext {x : Except Fault ClassState}
        (hx : (x >>= fun st => classBody st false cs) = .ok (ranges, rest)) :
        rest.length < (c :: cs).length := by
      obtain ⟨st', -, hst'⟩ := bind_eq_ok_iff.1 hx
      exact Nat.lt_succ_of_lt (ih hst')
    unfold classBody at h
    split at h
    · cases h
      exact Nat.lt_succ_self _
    · split at h
      · exact hnext h
      · exact hnext h

theorem State.length_rest_le_of_take_eq_ok {st : State} {before : Option Char} {c : Char}
    {cs : List Char} {s : Step} (h : st.take before c cs = .ok s) : s.rest.length ≤ cs.length := by
  revert h
  fun_cases State.take st before c cs <;> intro h
  case case5 negated body hbody =>
    obtain ⟨⟨ranges, rest⟩, hclass, h⟩ := bind_eq_ok_iff.1 h
    cases h
    have hlength := length_lt_of_classBody_eq_ok hclass
    have hle : body.length ≤ cs.length := by
      split at hbody <;> cases hbody <;> simp
    simp only
    omega
  all_goals cases h
  all_goals simp <;> omega

/-- More fuel than there are characters changes nothing. -/
theorem readFrom_congr_fuel {fuel fuel' : Nat} {cs : List Char} (h : cs.length < fuel)
    (h' : cs.length < fuel') (st : State) (before : Option Char) :
    readFrom fuel st before cs = readFrom fuel' st before cs := by
  induction fuel generalizing fuel' st before cs with
  | zero => omega
  | succ fuel ih =>
    obtain ⟨fuel', rfl⟩ := Nat.exists_eq_add_one_of_ne_zero (Nat.ne_zero_of_lt h')
    cases cs with
    | nil => rfl
    | cons c cs =>
      rw [List.length_cons, Nat.add_lt_add_iff_right] at h h'
      rw [readFrom_succ_cons, readFrom_succ_cons]
      cases hstep : st.take before c cs with
      | error e => rfl
      | ok s =>
        have hrest := State.length_rest_le_of_take_eq_ok hstep
        exact ih (Nat.lt_of_le_of_lt hrest h) (Nat.lt_of_le_of_lt hrest h') s.state (some s.last)

/-- Reads a pattern from a state on. -/
def read (st : State) (before : Option Char) (cs : List Char) : Except Fault (List Part) :=
  readFrom (cs.length + 1) st before cs

theorem read_nil (st : State) (before : Option Char) :
    read st before [] =
      if st.groups.isEmpty then .ok st.parts.reverse else .error .unclosedAlternates := rfl

theorem read_cons (st : State) (before : Option Char) (c : Char) (cs : List Char) :
    read st before (c :: cs) =
      st.take before c cs >>= fun s => read s.state (some s.last) s.rest := by
  unfold read
  rw [List.length_cons, readFrom_succ_cons]
  cases hstep : st.take before c cs with
  | error e => rfl
  | ok s =>
    have hrest := State.length_rest_le_of_take_eq_ok hstep
    exact readFrom_congr_fuel (Nat.lt_succ_of_le hrest) (Nat.lt_succ_self _) s.state (some s.last)

theorem parse_eq_read (pattern : String) : parse pattern = read {} none pattern.toList := rfl

/-- Reading goes on with a rest that is no longer. -/
theorem rest_induction {P : List Char → Prop} (nil : P [])
    (cons : ∀ c cs, (∀ rest, rest.length ≤ cs.length → P rest) → P (c :: cs)) (cs : List Char) :
    P cs := by
  induction h : cs.length using Nat.strongRecOn generalizing cs with
  | _ n ih =>
    cases cs with
    | nil => exact nil
    | cons c cs =>
      refine cons c cs fun rest hrest => ih rest.length ?_ rest rfl
      rw [← h, List.length_cons]
      exact Nat.lt_succ_of_le hrest

/-! ## What stands in front -/

/-- A part whose texts all begin with a slash. -/
def Part.IsSlashed : Part → Prop
  | .literal c => c = '/'
  | .between => True
  | .trailing => True
  | _ => False

theorem Part.IsSlashed.exists_eq_cons {p : Part} (hp : p.IsSlashed) {t : List UInt8}
    (ht : p.Covers t) : ∃ u, t = slash :: u := by
  cases p with
  | literal c =>
    obtain rfl : c = '/' := hp
    exact ⟨[], ht.trans (bytesOf_eq '/')⟩
  | between =>
    rcases ht with rfl | ⟨u, rfl⟩
    · exact ⟨[], rfl⟩
    · exact ⟨u ++ [slash], rfl⟩
  | trailing => exact ht
  | _ => exact hp.elim

/-- A state that has read the same as another one, behind parts that were read before. The first
part that they share begins with a slash. -/
inductive Behind (front : List Part) : State → State → Prop
  | outermost (parts : List Part) {p : Part} (hp : p.IsSlashed) :
    Behind front ⟨parts ++ [p], []⟩ ⟨parts ++ p :: front, []⟩
  | grouped {st st' : State} (parts : List Part) (branches : List (List Part))
    (h : Behind front st st') :
    Behind front ⟨parts, (branches, st.parts) :: st.groups⟩
      ⟨parts, (branches, st'.parts) :: st'.groups⟩

theorem Behind.push {front : List Part} {st st' : State} (h : Behind front st st') (p : Part) :
    Behind front (st.push p) (st'.push p) := by
  cases h with
  | outermost parts hp => exact .outermost (p :: parts) hp
  | grouped parts branches h => exact .grouped (p :: parts) branches h

/-- How a `**` is taken behind a part: as two stars, or with the slash in front of it, and then
whether it is the last and whether the slash after it is taken along. -/
def joins (grouped : Bool) (before after : Option Char) : Option (Bool × Bool) :=
  if before ≠ some '/' && (!grouped || (before ≠ some ',' && before ≠ some '{')) then none
  else match after with
    | none => some (true, false)
    | some c =>
      if grouped && (c = ',' || c = '}') then some (true, false)
      else if c = '/' then some (false, true)
      else none

/-- The part in front of a `**` together with it. -/
def Part.join (last : Part) (trailing : Bool) : Part :=
  match last with
  | .leading => .leading
  | .trailing => .trailing
  | _ => if trailing then .trailing else .between

theorem Part.IsSlashed.join {p : Part} (h : p.IsSlashed) (trailing : Bool) :
    (p.join trailing).IsSlashed := by
  cases p <;> cases trailing <;> trivial

theorem doubleStar_cons (last : Part) (parts : List Part)
    (groups : List (List (List Part) × List Part)) (before after : Option Char) :
    State.doubleStar ⟨last :: parts, groups⟩ before after =
      match joins (!groups.isEmpty) before after with
      | none => (⟨.star :: .star :: last :: parts, groups⟩, false)
      | some (trailing, slashTaken) => (⟨last.join trailing :: parts, groups⟩, slashTaken) := by
  unfold State.doubleStar joins
  dsimp only
  split
  · rfl
  · cases after with
    | none => rfl
    | some c =>
      dsimp only
      split
      · rfl
      · split <;> rfl

theorem Behind.doubleStar {front : List Part} {st st' : State} (h : Behind front st st')
    (before after : Option Char) :
    Behind front (st.doubleStar before after).1 (st'.doubleStar before after).1 ∧
      (st.doubleStar before after).2 = (st'.doubleStar before after).2 := by
  cases h with
  | outermost parts hp =>
    -- Both states have a part to join with, since the slashed one is there in any case.
    cases parts with
    | nil =>
      rw [List.nil_append, List.nil_append, doubleStar_cons, doubleStar_cons]
      split
      · exact ⟨.outermost [.star, .star] hp, rfl⟩
      · exact ⟨.outermost [] (hp.join _), rfl⟩
    | cons last parts =>
      rw [List.cons_append, List.cons_append, doubleStar_cons, doubleStar_cons]
      split
      · exact ⟨.outermost (.star :: .star :: last :: parts) hp, rfl⟩
      · exact ⟨.outermost (last.join _ :: parts) hp, rfl⟩
  | grouped parts branches h =>
    cases parts with
    | nil =>
      unfold State.doubleStar
      cases after with
      | none => exact ⟨.grouped [.leading] branches h, rfl⟩
      | some c =>
        dsimp only
        split
        · exact ⟨.grouped [.leading] branches h, rfl⟩
        · exact ⟨.grouped [.star, .star] branches h, rfl⟩
    | cons last parts =>
      rw [doubleStar_cons, doubleStar_cons]
      simp only [List.isEmpty_cons, Bool.not_false]
      split
      · exact ⟨.grouped (.star :: .star :: last :: parts) branches h, rfl⟩
      · exact ⟨.grouped (last.join _ :: parts) branches h, rfl⟩

/-- Two steps that fail alike, or go on alike from states that are related. -/
def Agree (R : State → State → Prop) : Except Fault Step → Except Fault Step → Prop
  | .error e, .error e' => e = e'
  | .ok s, .ok s' => R s.state s'.state ∧ s.last = s'.last ∧ s.rest = s'.rest
  | _, _ => False

theorem take_doubleStar (st : State) (before : Option Char) (rest : List Char) :
    st.take before '*' ('*' :: rest) =
      if (st.doubleStar before rest.head?).2 then
        .ok ⟨(st.doubleStar before rest.head?).1, '/', rest.tail⟩
      else .ok ⟨(st.doubleStar before rest.head?).1, '*', rest⟩ := rfl

theorem take_star {st : State} {before : Option Char} {cs : List Char}
    (h : ∀ rest, cs ≠ '*' :: rest) :
    st.take before '*' cs = .ok ⟨st.push .star, '*', cs⟩ := by
  cases cs with
  | nil => rfl
  | cons d ds =>
    simp [State.take]

theorem take_class (cs : List Char) :
    ∃ negated body, ∀ (st : State) (before : Option Char), st.take before '[' cs =
      classBody {} true body >>= fun r => .ok ⟨st.push (.class negated r.1), ']', r.2⟩ :=
  ⟨_, _, fun _ _ => rfl⟩

/-- The characters that have a meaning outside of a class. -/
def specials : List Char := ['?', '*', '[', '{', '}', ',', '\\']

theorem take_literal {c : Char} (h : c ∉ specials) (st : State) (before : Option Char)
    (cs : List Char) : st.take before c cs = .ok ⟨st.push (.literal c), c, cs⟩ := by
  simp only [specials, List.mem_cons, List.not_mem_nil, or_false, not_or] at h
  obtain ⟨h₁, h₂, h₃, h₄, h₅, h₆, h₇⟩ := h
  unfold State.take
  split <;> first | contradiction | rfl

theorem Behind.take {front : List Part} {st st' : State} (h : Behind front st st')
    (before : Option Char) (c : Char) (cs : List Char) :
    Agree (Behind front) (st.take before c cs) (st'.take before c cs) := by
  have hpush (p : Part) : Behind front (st.push p) (st'.push p) := h.push p
  by_cases hc : c ∈ specials
  · simp only [specials, List.mem_cons, List.not_mem_nil, or_false] at hc
    rcases hc with rfl | rfl | rfl | rfl | rfl | rfl | rfl
    · exact ⟨hpush .any, rfl, rfl⟩
    · by_cases hcs : ∃ rest, cs = '*' :: rest
      · obtain ⟨rest, rfl⟩ := hcs
        obtain ⟨hstate, hflag⟩ := h.doubleStar before rest.head?
        rw [take_doubleStar, take_doubleStar, ← hflag]
        split
        · exact ⟨hstate, rfl, rfl⟩
        · exact ⟨hstate, rfl, rfl⟩
      · rw [take_star (not_exists.1 hcs), take_star (not_exists.1 hcs)]
        exact ⟨hpush .star, rfl, rfl⟩
    · obtain ⟨negated, body, hclass⟩ := take_class cs
      rw [hclass, hclass]
      cases classBody {} true body with
      | error e => rfl
      | ok r => exact ⟨hpush _, rfl, rfl⟩
    · exact ⟨.grouped [] [] h, rfl, rfl⟩
    -- A closing brace goes back to the state from before the group, or fails in both.
    · cases h with
      | outermost parts hp => rfl
      | grouped parts branches h => exact ⟨h.push _, rfl, rfl⟩
    · cases h with
      | outermost parts hp => exact ⟨hpush _, rfl, rfl⟩
      | grouped parts branches h => exact ⟨.grouped [] _ h, rfl, rfl⟩
    · cases cs with
      | nil => rfl
      | cons e rest => exact ⟨hpush _, rfl, rfl⟩
  · rw [take_literal hc, take_literal hc]
    exact ⟨hpush _, rfl, rfl⟩

/-- **What was read before stays in front.** -/
theorem Behind.read {front : List Part} {st st' : State} (h : Behind front st st')
    (before : Option Char) (cs : List Char) :
    read st' before cs = (read st before cs).map (front.reverse ++ ·) ∧
      ∀ parts, Stored.read st before cs = .ok parts → ∃ p ps, parts = p :: ps ∧ p.IsSlashed := by
  induction cs using rest_induction generalizing st st' before with
  | nil =>
    cases h with
    | outermost parts hp =>
      refine ⟨?_, fun read hread => ?_⟩
      · simp [read_nil, Except.map]
      · simp only [read_nil, List.isEmpty_nil, if_true, Except.ok.injEq,
          List.reverse_append] at hread
        exact ⟨_, _, hread.symm, hp⟩
    | grouped parts branches h => exact ⟨rfl, fun parts hparts => nomatch hparts⟩
  | cons c cs ih =>
    rw [read_cons, read_cons]
    have hagree := h.take before c cs
    cases hstep : st.take before c cs with
    | error e =>
      cases hstep' : st'.take before c cs with
      | error e' =>
        rw [hstep, hstep'] at hagree
        cases hagree
        exact ⟨rfl, fun parts hparts => nomatch hparts⟩
      | ok s' => rw [hstep, hstep'] at hagree; exact hagree.elim
    | ok s =>
      cases hstep' : st'.take before c cs with
      | error e' => rw [hstep, hstep'] at hagree; exact hagree.elim
      | ok s' =>
        rw [hstep, hstep'] at hagree
        obtain ⟨hstate, hlast, hrest⟩ := hagree
        have hlength := State.length_rest_le_of_take_eq_ok hstep
        have hread := ih s.rest hlength hstate (some s.last)
        change Stored.read s'.state (some s'.last) s'.rest = _ ∧ _
        rw [← hlast, ← hrest]
        exact hread

/-! ## Which patterns are well formed -/

theorem groups_doubleStar (st : State) (before after : Option Char) :
    (st.doubleStar before after).1.groups = st.groups := by
  obtain ⟨parts, groups⟩ := st
  cases parts with
  | nil =>
    unfold State.doubleStar
    cases after with
    | none => rfl
    | some c => dsimp only; split <;> rfl
  | cons last parts =>
    rw [doubleStar_cons]
    split <;> rfl

theorem eq_slash_of_doubleStar {st : State} {before after : Option Char}
    (h : (st.doubleStar before after).2 = true) : after = some '/' := by
  obtain ⟨parts, groups⟩ := st
  cases parts with
  | nil =>
    unfold State.doubleStar at h
    cases after with
    | none => cases h
    | some c =>
      dsimp only at h
      split at h
      · next hc => rw [hc]
      · cases h
  | cons last parts =>
    rw [doubleStar_cons] at h
    unfold joins at h
    split at h
    · cases h
    · next heq =>
      split at heq
      · cases heq
      · split at heq
        · cases heq; cases h
        · split at heq
          · cases heq; cases h
          · split at heq
            · next hc => rw [hc]
            · cases heq

theorem slash_not_mem_specials : '/' ∉ specials := by decide

/-- After a `**` reading goes on as if the slash after it had not been taken along. -/
theorem isOk_read_take_doubleStar (rest : List Char)
    (ih : ∀ tail, tail.length < rest.length → ∀ (st st' : State) (before before' : Option Char),
      st.groups.length = st'.groups.length →
      (read st before tail).isOk = (read st' before' tail).isOk)
    (st : State) (before : Option Char) :
    ∃ st₁ before₁, st₁.groups = st.groups ∧
      (read st before ('*' :: '*' :: rest)).isOk = (read st₁ before₁ rest).isOk := by
  rw [read_cons, take_doubleStar]
  refine ⟨(st.doubleStar before rest.head?).1, some '*', groups_doubleStar .., ?_⟩
  split
  · next htaken =>
    obtain ⟨tail, rfl⟩ := List.head?_eq_some_iff.1 (eq_slash_of_doubleStar htaken)
    rw [read_cons _ _ '/', take_literal slash_not_mem_specials]
    exact ih tail (Nat.lt_succ_self _) _ _ _ _ rfl
  · rfl

/-- **Whether a pattern is well formed** depends on how many groups are open, not on what was read
before. -/
theorem isOk_read_congr {st st' : State} (h : st.groups.length = st'.groups.length)
    (before before' : Option Char) (cs : List Char) :
    (read st before cs).isOk = (read st' before' cs).isOk := by
  induction cs using rest_induction generalizing st st' before before' with
  | nil =>
    rw [read_nil, read_nil]
    cases hst : st.groups <;> cases hst' : st'.groups <;> simp_all [Except.isOk, Except.toBool]
  | cons c cs ih =>
    have hnext (s s' : State) (b b' : Option Char) (hs : s.groups.length = s'.groups.length) :
        (read s b cs).isOk = (read s' b' cs).isOk := ih cs (Nat.le_refl _) hs b b'
    by_cases hc : c ∈ specials
    · simp only [specials, List.mem_cons, List.not_mem_nil, or_false] at hc
      rcases hc with rfl | rfl | rfl | rfl | rfl | rfl | rfl
      · exact hnext _ _ _ _ h
      · by_cases hcs : ∃ rest, cs = '*' :: rest
        · obtain ⟨rest, rfl⟩ := hcs
          have hrest := isOk_read_take_doubleStar rest fun tail htail s s' b b' hs =>
            ih tail (Nat.le_of_lt (Nat.lt_succ_of_lt htail)) hs b b'
          obtain ⟨s, b, hs, hread⟩ := hrest st before
          obtain ⟨s', b', hs', hread'⟩ := hrest st' before'
          rw [hread, hread']
          exact ih rest (Nat.le_succ _) (by rw [hs, hs', h]) b b'
        · rw [read_cons, read_cons, take_star (not_exists.1 hcs), take_star (not_exists.1 hcs)]
          exact hnext _ _ _ _ h
      · obtain ⟨negated, body, hclass⟩ := take_class cs
        have hlength {s : Step} : st.take before '[' cs = .ok s → s.rest.length ≤ cs.length :=
          State.length_rest_le_of_take_eq_ok
        rw [hclass] at hlength
        rw [read_cons, read_cons, hclass, hclass]
        cases hbody : classBody {} true body with
        | error e => rfl
        | ok r =>
          rw [hbody] at hlength
          have hpush : (st.push (.class negated r.1)).groups.length =
              (st'.push (.class negated r.1)).groups.length := h
          exact ih r.2 (hlength rfl) hpush (some ']') (some ']')
      · exact hnext _ _ _ _ (congrArg (· + 1) h)
      · rw [read_cons, read_cons]
        obtain ⟨parts, groups⟩ := st
        obtain ⟨parts', groups'⟩ := st'
        cases groups <;> cases groups' <;> simp only [List.length_nil, List.length_cons] at h
        · rfl
        · omega
        · omega
        · exact hnext _ _ _ _ (Nat.succ.inj h)
      · rw [read_cons, read_cons]
        obtain ⟨parts, groups⟩ := st
        obtain ⟨parts', groups'⟩ := st'
        cases groups <;> cases groups' <;> simp only [List.length_nil, List.length_cons] at h
        · exact hnext _ _ _ _ rfl
        · omega
        · omega
        · exact hnext _ _ _ _ h
      · cases cs with
        | nil => rfl
        | cons e rest =>
          rw [read_cons, read_cons]
          have hpush : (st.push (.literal e)).groups.length =
              (st'.push (.literal e)).groups.length := h
          exact ih rest (Nat.le_succ _) hpush (some e) (some e)
    · rw [read_cons, read_cons, take_literal hc, take_literal hc]
      exact hnext _ _ _ _ h

/-! ## A text taken literally -/

/-- The characters that are put into a class of their own. -/
def bracketed : List Char := ['?', '*', '[', ']', '\x7b', '\x7d']

/-- A character as a pattern for itself. -/
def escapeChar (c : Char) : List Char := if c ∈ bracketed then ['[', c, ']'] else [c]

/-- The part that a character in front of a pattern is read as. -/
def selfPart (c : Char) : Part := if c ∈ bracketed then .class false [(c, c)] else .literal c

theorem toList_escape (text : String) : (escape text).toList = text.toList.flatMap escapeChar := by
  have hbracketed : "?*[]\x7b\x7d".toList = bracketed := rfl
  unfold escape escapeChar
  rw [String.toList_ofList, hbracketed]
  simp only [List.contains_iff_mem]

/-- A class with one character of one byte stands for that byte. -/
theorem inClass_self {c : Char} {b x : UInt8} (h : bytesOf c = [x]) :
    inClass [(c, c)] b = true ↔ b = x := by
  have hrange : inClass [(c, c)] b = (x ≤ b && b ≤ x) := by
    simp [inClass, byteRanges, h]
  rw [hrange, Bool.and_eq_true, decide_eq_true_eq, decide_eq_true_eq]
  exact ⟨fun hb => UInt8.le_antisymm hb.2 hb.1, fun hb => hb ▸ ⟨UInt8.le_refl _, UInt8.le_refl _⟩⟩

theorem covers_selfPart_iff {c : Char} {t : List UInt8} :
    (selfPart c).Covers t ↔ t = utf8EncodeChar c := by
  by_cases hc : c ∈ bracketed
  · have hself : selfPart c = .class false [(c, c)] := if_pos hc
    obtain ⟨x, hx⟩ : ∃ x, utf8EncodeChar c = [x] := by
      simp only [bracketed, List.mem_cons, List.not_mem_nil, or_false] at hc
      rcases hc with rfl | rfl | rfl | rfl | rfl | rfl <;> exact ⟨_, rfl⟩
    have hclass (b : UInt8) : (inClass [(c, c)] b != false) = true ↔ b = x := by
      rw [Bool.bne_false]
      exact inClass_self ((bytesOf_eq c).trans hx)
    rw [hself, hx]
    simp only [Part.Covers, hclass]
    simp
  · have hself : selfPart c = .literal c := if_neg hc
    rw [hself, Part.Covers, bytesOf_eq]

theorem listCovers_selfParts_iff {text : List Char} {t : List UInt8} :
    Part.ListCovers (text.map selfPart) t ↔ t = text.flatMap utf8EncodeChar := by
  induction text generalizing t with
  | nil => rfl
  | cons c text ih =>
    simp only [List.map_cons, Part.ListCovers, List.flatMap_cons, ih, covers_selfPart_iff]
    constructor
    · rintro ⟨_, _, rfl, rfl, rfl⟩
      rfl
    · rintro rfl
      exact ⟨_, _, rfl, rfl, rfl⟩

theorem take_bracketed {c : Char} (h : c ∈ bracketed) (st : State) (before : Option Char)
    (cs : List Char) :
    st.take before '[' (c :: ']' :: cs) = .ok ⟨st.push (.class false [(c, c)]), ']', cs⟩ := by
  simp only [bracketed, List.mem_cons, List.not_mem_nil, or_false] at h
  rcases h with rfl | rfl | rfl | rfl | rfl | rfl <;> rfl

/-- Outside of a group a comma is like any other character. -/
theorem take_outermost {c : Char} (h : c ∉ bracketed) (hc : c ≠ '\\') (parts : List Part)
    (before : Option Char) (cs : List Char) :
    State.take ⟨parts, []⟩ before c cs = .ok ⟨⟨.literal c :: parts, []⟩, c, cs⟩ := by
  by_cases hcomma : c = ','
  · subst hcomma
    rfl
  · refine take_literal ?_ _ before cs
    simp only [bracketed, specials, List.mem_cons, List.not_mem_nil, or_false, not_or] at h ⊢
    exact ⟨h.1, h.2.1, h.2.2.1, h.2.2.2.2.1, h.2.2.2.2.2, hcomma, hc⟩

/-- **A text is read as itself,** except for a backslash, which takes the next character. -/
theorem read_escaped {text : List Char} (h : '\\' ∉ text) (parts : List Part)
    (before : Option Char) (cs : List Char) :
    ∃ last, read ⟨parts, []⟩ before (text.flatMap escapeChar ++ cs) =
      read ⟨(text.map selfPart).reverse ++ parts, []⟩ last cs := by
  induction text generalizing parts before with
  | nil => exact ⟨before, rfl⟩
  | cons c text ih =>
    rw [List.mem_cons, not_or] at h
    rw [List.map_cons, List.reverse_cons, List.append_assoc, List.singleton_append,
      List.flatMap_cons, List.append_assoc]
    by_cases hc : c ∈ bracketed
    · have hself : selfPart c = .class false [(c, c)] := if_pos hc
      have hescape : escapeChar c = ['[', c, ']'] := if_pos hc
      obtain ⟨last, hread⟩ := ih h.2 (.class false [(c, c)] :: parts) (some ']')
      refine ⟨last, ?_⟩
      rw [hself, hescape, ← hread]
      change read _ before ('[' :: c :: ']' :: _) = _
      rw [read_cons, take_bracketed hc]
      rfl
    · have hself : selfPart c = .literal c := if_neg hc
      have hescape : escapeChar c = [c] := if_neg hc
      obtain ⟨last, hread⟩ := ih h.2 (.literal c :: parts) (some c)
      refine ⟨last, ?_⟩
      rw [hself, hescape, ← hread]
      change read _ before (c :: _) = _
      rw [read_cons, take_outermost hc (Ne.symm h.1)]
      rfl

/-- The state behind a slash. -/
def afterSlash : State := ⟨[.literal '/'], []⟩

/-- What a pattern is read as behind a slash. -/
def readBelow (pattern : String) : Except Fault (List Part) :=
  read afterSlash (some '/') pattern.toList

theorem isOk_readBelow (pattern : String) : (readBelow pattern).isOk = (parse pattern).isOk := by
  have hgroups : afterSlash.groups.length = ({} : State).groups.length := rfl
  exact isOk_read_congr hgroups (some '/') none pattern.toList

theorem slashed_of_readBelow {pattern : String} {parts : List Part}
    (h : readBelow pattern = .ok parts) : ∃ p ps, parts = p :: ps ∧ p.IsSlashed := by
  have hbehind : Behind [] afterSlash afterSlash := .outermost [] rfl
  exact (hbehind.read (some '/') pattern.toList).2 parts h

/-- **A pattern behind a text** that is taken literally. -/
theorem parse_behind {text : List Char} (h : '\\' ∉ text) (pattern : String) :
    parse (String.ofList (text.flatMap escapeChar) ++ "/" ++ pattern) =
      (readBelow pattern).map (text.map selfPart ++ ·) := by
  have hlist : (String.ofList (text.flatMap escapeChar) ++ "/" ++ pattern).toList =
      text.flatMap escapeChar ++ '/' :: pattern.toList := by
    simp [String.toList_append]
  obtain ⟨last, hread⟩ := read_escaped h [] none ('/' :: pattern.toList)
  have hbehind : Behind (text.map selfPart).reverse afterSlash
      ⟨.literal '/' :: (text.map selfPart).reverse, []⟩ := .outermost [] rfl
  rw [parse_eq_read, hlist]
  change read ⟨[], []⟩ none _ = _
  rw [hread, List.append_nil, read_cons, take_literal slash_not_mem_specials]
  refine (hbehind.read (some '/') pattern.toList).1.trans ?_
  rw [List.reverse_reverse]
  rfl

end Rulebook.Glob.Stored
