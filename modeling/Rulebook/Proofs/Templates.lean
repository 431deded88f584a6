import Rulebook.Rule.Template
import Mathlib.Data.List.TakeWhile

/-!
# Templates as tokens

A template is read from left to right as tokens: characters that stand for themselves, doubled
dollar signs, and references with braces around the name or without.

**Theorem (`parse_tokens`).** A text that is not blank is a template just if all of it can be read
as tokens whose names may be used. The message is then what the tokens stand for, one after the
other, and the variables are the names in the tokens. Otherwise the error tells of the first place
where the text cannot be read on.

Every text that is not empty starts with a token or with a brace that is not closed
(`exists_readBefore`). Reading passes over a token and goes on behind it (`readFrom_spelled`), so it
gets to where the tokens end (`readFrom_of_splits`).
-/

namespace Rulebook.Template

/-! ## Names -/

/-- Whether a character can be in a name without braces: a letter or a digit of ASCII, or `_`. -/
def InName (c : Char) : Prop :=
  ('A' ≤ c ∧ c ≤ 'Z') ∨ ('a' ≤ c ∧ c ≤ 'z') ∨ ('0' ≤ c ∧ c ≤ '9') ∨ c = '_'

theorem isNameChar_iff {c : Char} : isNameChar c = true ↔ InName c := by
  have hchar : isNameChar c = (decide ('A' ≤ c ∧ c ≤ 'Z') ||
      decide ('a' ≤ c) && decide (c ≤ 'z') || decide ('0' ≤ c) && decide (c ≤ '9') ||
      decide (c = '_')) := rfl
  rw [hchar]
  simp only [Bool.or_eq_true, Bool.and_eq_true, decide_eq_true_eq, InName, or_assoc]

theorem InName.ne_dollar {c : Char} (h : InName c) : c ≠ '$' := by
  rintro rfl
  exact absurd (isNameChar_iff.2 h) (by decide)

theorem InName.ne_open {c : Char} (h : InName c) : c ≠ '\x7b' := by
  rintro rfl
  exact absurd (isNameChar_iff.2 h) (by decide)

theorem InName.ne_close {c : Char} (h : InName c) : c ≠ '\x7d' := by
  rintro rfl
  exact absurd (isNameChar_iff.2 h) (by decide)

/-! ## Tokens -/

/-- What a template is read as: a character, two dollar signs, or a reference. -/
inductive Token where
  | char (c : Char)
  | dollar
  | braced (name : String)
  | bare (name : String)
  deriving DecidableEq

namespace Token

/-- The characters of a token. -/
def spelled : Token → List Char
  | char c => [c]
  | dollar => ['$', '$']
  | braced name => '$' :: '\x7b' :: (name.toList ++ ['\x7d'])
  | bare name => '$' :: name.toList

/-- The name of the variable that a token refers to. -/
def name? : Token → Option String
  | char _ | dollar => none
  | braced name | bare name => some name

/-- The text that a token stands for; a variable without a value stands for nothing. -/
def value (value? : String → Option String) : Token → String
  | char c => String.singleton c
  | dollar => "$"
  | braced name | bare name => (value? name).getD ""

/-- Whether a token is read before certain characters. A name in braces ends at the first closing
brace, and a name without them is as long as can be. -/
def ReadBefore (after : List Char) : Token → Prop
  | char c => c ≠ '$'
  | dollar => True
  | braced name => '\x7d' ∉ name.toList
  | bare name => (∀ c ∈ name.toList, InName c) ∧
      ∀ c ∈ after.head?, ¬ InName c ∧ (name = "" → c ≠ '$' ∧ c ≠ '\x7b')

/-- Whether a token refers to no variable but the given ones. -/
def Allowed (names : List String) (t : Token) : Prop :=
  ∀ name, t.name? = some name → name ≠ "" ∧ name ∈ names

/-- Adds a token to pieces that are listed last first. -/
def push (done : List Segment) : Token → List Segment
  | char c => pushChar c done
  | dollar => pushChar '$' done
  | braced name | bare name => .ref name :: done

theorem spelled_ne_nil (t : Token) : t.spelled ≠ [] := by
  cases t <;> exact List.cons_ne_nil _ _

theorem push_of_name? {t : Token} {name : String} (h : t.name? = some name)
    (done : List Segment) : t.push done = .ref name :: done := by
  cases t with
  | char | dollar => cases h
  | braced | bare =>
    cases h
    rfl

end Token

/-- A text begins with tokens that refer to the given names, and something is left after them. -/
inductive Splits (names : List String) : List Char → List Token → List Char → Prop
  | nil (left : List Char) : Splits names left [] left
  | cons {t : Token} {after left : List Char} {ts : List Token} : t.ReadBefore after →
      t.Allowed names → Splits names after ts left →
      Splits names (t.spelled ++ after) (t :: ts) left

/-- Why a text that begins at an offset does not begin with a token that refers to a given name. -/
inductive Offends (names : List String) (offset : Nat) : List Char → Fault → Prop
  | unterminated {rest : List Char} : '\x7d' ∉ rest →
      Offends names offset ('$' :: '\x7b' :: rest) (.unterminated offset)
  | nameless {t : Token} {after : List Char} : t.ReadBefore after → t.name? = some "" →
      Offends names offset (t.spelled ++ after) (.nameless offset)
  | unknown {t : Token} {after : List Char} {name : String} : t.ReadBefore after →
      t.name? = some name → name ≠ "" → name ∉ names →
      Offends names offset (t.spelled ++ after) (.unknown name)

theorem Splits.eq_append {names : List String} {cs left : List Char} {ts : List Token}
    (h : Splits names cs ts left) : cs = ts.flatMap Token.spelled ++ left := by
  induction h with
  | nil => rfl
  | cons _ _ _ ih => rw [ih, List.flatMap_cons, List.append_assoc]

theorem Splits.of_mem {names : List String} {cs left : List Char} {ts : List Token}
    (h : Splits names cs ts left) {t : Token} (ht : t ∈ ts) :
    (∃ after, t.ReadBefore after) ∧ t.Allowed names := by
  induction h with
  | nil => cases ht
  | cons hbefore hallowed _ ih =>
    rcases List.mem_cons.1 ht with rfl | ht
    · exact ⟨⟨_, hbefore⟩, hallowed⟩
    · exact ih ht

/-! ## Bytes -/

theorem foldl_byteCount (cs : List Char) (n : Nat) :
    cs.foldl (fun n c => n + c.utf8Size) n = n + byteCount cs := by
  unfold byteCount
  induction cs generalizing n with
  | nil => rfl
  | cons c cs ih =>
    rw [List.foldl_cons, List.foldl_cons, ih, ih (0 + c.utf8Size)]
    omega

theorem byteCount_append (cs ds : List Char) :
    byteCount (cs ++ ds) = byteCount cs + byteCount ds := by
  show (cs ++ ds).foldl (fun n c => n + c.utf8Size) 0 = _
  rw [List.foldl_append, foldl_byteCount ds]
  rfl

theorem byteCount_cons (c : Char) (cs : List Char) :
    byteCount (c :: cs) = c.utf8Size + byteCount cs := by
  show cs.foldl (fun n c => n + c.utf8Size) (0 + c.utf8Size) = _
  rw [foldl_byteCount, Nat.zero_add]

theorem byteCount_eq (cs : List Char) : byteCount cs = (String.ofList cs).utf8ByteSize := by
  induction cs with
  | nil => rfl
  | cons c cs ih =>
    rw [byteCount_cons, ih, String.ofList_cons, String.utf8ByteSize_append,
      String.utf8ByteSize_singleton]

/-! ## Reading over a token -/

section Reading

variable {known : String → Bool} {offset : Nat} {done : List Segment}

theorem reference_empty : reference known offset "".toList = .error (.nameless offset) := rfl

theorem reference_of_ne {name : String} (hne : name ≠ "") :
    reference known offset name.toList =
      if known name then .ok (.ref name) else .error (.unknown name) := by
  have hcons : name.toList.isEmpty = false := by
    simpa using fun hnil => hne (String.toList_eq_nil_iff.1 hnil)
  unfold reference
  rw [String.ofList_toList, hcons]
  rfl

theorem readFrom_char {c : Char} (h : c ≠ '$') (after : List Char) :
    readFrom known offset done (c :: after) =
      readFrom known (offset + c.utf8Size) (pushChar c done) after := by
  rw [readFrom.eq_def]
  exact if_pos h

theorem readFrom_dollar (after : List Char) :
    readFrom known offset done ('$' :: '$' :: after) =
      readFrom known (offset + 2) (pushChar '$' done) after := by
  rw [readFrom.eq_def]
  rfl

theorem ne_close_of_not_mem {name : List Char} (h : '\x7d' ∉ name) :
    ∀ c ∈ name, decide (c ≠ '\x7d') = true := by
  intro c hc
  have hne : c ≠ '\x7d' := fun heq => h (heq ▸ hc)
  simpa using hne

theorem readFrom_braced {name : List Char} (h : '\x7d' ∉ name) (after : List Char) :
    readFrom known offset done ('$' :: '\x7b' :: (name ++ '\x7d' :: after)) =
      (reference known offset name).bind fun piece =>
        readFrom known (offset + 3 + byteCount name) (piece :: done) after := by
  have htake : (name ++ '\x7d' :: after).takeWhile (· ≠ '\x7d') = name := by
    rw [List.takeWhile_append_of_pos (ne_close_of_not_mem h),
      List.takeWhile_cons_of_neg (by simp), List.append_nil]
  have hdrop : (name ++ '\x7d' :: after).dropWhile (· ≠ '\x7d') = '\x7d' :: after := by
    rw [List.dropWhile_append_of_pos (ne_close_of_not_mem h),
      List.dropWhile_cons_of_neg (by simp)]
  rw [readFrom.eq_def]
  simp only [ne_eq, not_true_eq_false, if_false]
  split
  · next hnil => cases hdrop.symm.trans hnil
  · next hcons =>
    cases hdrop.symm.trans hcons
    rw [htake]
    cases reference known offset name <;> rfl

theorem readFrom_unterminated {rest : List Char} (h : '\x7d' ∉ rest) :
    readFrom known offset done ('$' :: '\x7b' :: rest) = .error (.unterminated offset) := by
  have hdrop : rest.dropWhile (· ≠ '\x7d') = [] :=
    List.dropWhile_eq_nil_iff.2 (ne_close_of_not_mem h)
  rw [readFrom.eq_def]
  simp only [ne_eq, not_true_eq_false, if_false]
  split
  · rfl
  · next hcons => cases hdrop.symm.trans hcons

theorem readFrom_bare {name after : List Char} (hname : ∀ c ∈ name, InName c)
    (hafter : ∀ c ∈ after.head?, ¬ InName c ∧ (name = [] → c ≠ '$' ∧ c ≠ '\x7b')) :
    readFrom known offset done ('$' :: (name ++ after)) =
      (reference known offset name).bind fun piece =>
        readFrom known (offset + 1 + byteCount name) (piece :: done) after := by
  have hchars : ∀ c ∈ name, isNameChar c = true := fun c hc => isNameChar_iff.2 (hname c hc)
  have hhead : ∀ c ∈ (name ++ after).head?, c ≠ '$' ∧ c ≠ '\x7b' := by
    intro c hc
    cases name with
    | nil => exact (hafter c hc).2 rfl
    | cons d name =>
      cases hc
      have hd := hname c List.mem_cons_self
      exact ⟨hd.ne_dollar, hd.ne_open⟩
  have hstop : ∀ c ∈ after.head?, ¬ isNameChar c = true := fun c hc =>
    isNameChar_iff.not.2 (hafter c hc).1
  have htake : (name ++ after).takeWhile isNameChar = name := by
    rw [List.takeWhile_append_of_pos hchars]
    cases after with
    | nil => exact List.append_nil name
    | cons c after => rw [List.takeWhile_cons_of_neg (hstop c rfl), List.append_nil]
  have hdrop : (name ++ after).dropWhile isNameChar = after := by
    rw [List.dropWhile_append_of_pos hchars]
    cases after with
    | nil => rfl
    | cons c after => exact List.dropWhile_cons_of_neg (hstop c rfl)
  rw [readFrom.eq_def]
  dsimp only
  rw [if_neg (by simp)]
  split
  · next hdollar => exact absurd rfl (hhead '$' (by rw [hdollar]; rfl)).1
  · next hopen => exact absurd rfl (hhead '\x7b' (by rw [hopen]; rfl)).2
  · rw [htake, hdrop]
    cases reference known offset name <;> rfl

/-- **Reading over a token.** A reference is looked up, and then reading goes on behind it. -/
theorem readFrom_of_name?_eq_some {t : Token} {after : List Char} (h : t.ReadBefore after)
    {name : String} (hname : t.name? = some name) :
    readFrom known offset done (t.spelled ++ after) =
      (reference known offset name.toList).bind fun piece =>
        readFrom known (offset + byteCount t.spelled) (piece :: done) after := by
  cases t with
  | char | dollar => cases hname
  | braced name =>
    cases hname
    have hbytes : byteCount (Token.braced name).spelled = 3 + byteCount name.toList := by
      show byteCount ('$' :: '\x7b' :: (name.toList ++ ['\x7d'])) = _
      rw [byteCount_cons, byteCount_cons, byteCount_append]
      show 1 + (1 + (byteCount name.toList + 1)) = _
      omega
    have hspelled : (Token.braced name).spelled ++ after =
        '$' :: '\x7b' :: (name.toList ++ '\x7d' :: after) := by
      simp [Token.spelled]
    rw [hspelled, readFrom_braced h, hbytes, Nat.add_assoc]
  | bare name =>
    cases hname
    have hbytes : byteCount (Token.bare name).spelled = 1 + byteCount name.toList :=
      byteCount_cons _ _
    have hempty : name.toList = [] → name = "" := String.toList_eq_nil_iff.1
    have hafter := fun c hc => And.imp_right (fun hne hnil => hne (hempty hnil)) (h.2 c hc)
    show readFrom known offset done ('$' :: (name.toList ++ after)) = _
    rw [readFrom_bare h.1 hafter, hbytes, Nat.add_assoc]

/-- Reading over a token whose name may be used. -/
theorem readFrom_spelled {names : List String} (hknown : ∀ name, known name = true ↔ name ∈ names)
    {t : Token} {after : List Char} (h : t.ReadBefore after) (hallowed : t.Allowed names) :
    readFrom known offset done (t.spelled ++ after) =
      readFrom known (offset + byteCount t.spelled) (t.push done) after := by
  cases hname : t.name? with
  | some name =>
    obtain ⟨hne, hmem⟩ := hallowed name hname
    rw [readFrom_of_name?_eq_some h hname, reference_of_ne hne, if_pos ((hknown name).2 hmem),
      Token.push_of_name? hname]
    rfl
  | none =>
    cases t with
    | char c =>
      show readFrom known offset done (c :: after) = _
      rw [readFrom_char h, ← Nat.zero_add c.utf8Size]
      rfl
    | dollar => exact readFrom_dollar after
    | braced | bare => cases hname

theorem readFrom_of_offends {names : List String}
    (hknown : ∀ name, known name = true ↔ name ∈ names) {cs : List Char} {e : Fault}
    (h : Offends names offset cs e) : readFrom known offset done cs = .error e := by
  cases h with
  | unterminated hrest => exact readFrom_unterminated hrest
  | nameless hbefore hname =>
    rw [readFrom_of_name?_eq_some hbefore hname, reference_empty]
    rfl
  | unknown hbefore hname hne hmem =>
    rw [readFrom_of_name?_eq_some hbefore hname, reference_of_ne hne,
      if_neg fun h => hmem ((hknown _).1 h)]
    rfl

/-- **Reading over tokens.** -/
theorem readFrom_of_splits {names : List String}
    (hknown : ∀ name, known name = true ↔ name ∈ names) {cs left : List Char} {ts : List Token}
    (h : Splits names cs ts left) :
    readFrom known offset done cs = readFrom known (offset + byteCount (ts.flatMap Token.spelled))
      (ts.foldl Token.push done) left := by
  induction h generalizing offset done with
  | nil => rfl
  | cons hbefore hallowed _ ih =>
    rw [readFrom_spelled hknown hbefore hallowed, ih, List.flatMap_cons, byteCount_append,
      Nat.add_assoc, List.foldl_cons]

end Reading

/-! ## Every text begins with tokens -/

/-- Behind a dollar sign that neither a dollar sign nor a brace follows there is a name without
braces, which may be empty. -/
theorem readBefore_bare {cs : List Char} (hdollar : cs.head? ≠ some '$')
    (hopen : cs.head? ≠ some '\x7b') :
    (Token.bare (String.ofList (cs.takeWhile isNameChar))).ReadBefore
      (cs.dropWhile isNameChar) := by
  constructor
  · rw [String.toList_ofList]
    exact fun c hc => isNameChar_iff.1 (List.mem_takeWhile_imp hc)
  · intro c hc
    have hstop := List.head?_dropWhile_not isNameChar cs
    rw [Option.mem_def.1 hc] at hstop
    refine ⟨isNameChar_iff.not.1 (by simpa using hstop), fun hempty => ?_⟩
    have hnil : cs.takeWhile isNameChar = [] := by simpa using congrArg String.toList hempty
    have hall := List.takeWhile_append_dropWhile (p := isNameChar) (l := cs)
    rw [hnil, List.nil_append] at hall
    rw [hall] at hc
    exact ⟨fun heq => hdollar (heq ▸ hc), fun heq => hopen (heq ▸ hc)⟩

/-- A text that is not empty begins with a token, or with a brace that is not closed. -/
theorem exists_readBefore {cs : List Char} (h : cs ≠ []) :
    (∃ t after, cs = Token.spelled t ++ after ∧ t.ReadBefore after) ∨
      ∃ rest, cs = '$' :: '\x7b' :: rest ∧ '\x7d' ∉ rest := by
  obtain ⟨c, cs, rfl⟩ := List.exists_cons_of_ne_nil h
  by_cases hc : c ≠ '$'
  · exact .inl ⟨.char c, cs, rfl, hc⟩
  obtain rfl := Decidable.not_not.1 hc
  by_cases hdollar : cs.head? = some '$'
  · obtain ⟨rest, rfl⟩ := List.head?_eq_some_iff.1 hdollar
    exact .inl ⟨.dollar, rest, rfl, trivial⟩
  by_cases hopen : cs.head? = some '\x7b'
  · obtain ⟨rest, rfl⟩ := List.head?_eq_some_iff.1 hopen
    by_cases hclose : '\x7d' ∈ rest
    · obtain ⟨name, after, rfl, hname⟩ := List.eq_append_cons_of_mem hclose
      refine .inl ⟨.braced (String.ofList name), after, ?_, ?_⟩
      · simp [Token.spelled]
      · show '\x7d' ∉ (String.ofList name).toList
        rwa [String.toList_ofList]
    · exact .inr ⟨rest, rfl, hclose⟩
  · refine .inl ⟨_, _, ?_, readBefore_bare hdollar hopen⟩
    show '$' :: cs = '$' :: ((String.ofList (cs.takeWhile isNameChar)).toList ++ _)
    rw [String.toList_ofList, List.takeWhile_append_dropWhile]

theorem exists_offends {names : List String} {t : Token} {after : List Char}
    (h : t.ReadBefore after) (hallowed : ¬ t.Allowed names) (offset : Nat) :
    ∃ e, Offends names offset (t.spelled ++ after) e := by
  simp only [Token.Allowed, not_forall] at hallowed
  obtain ⟨name, hname, hnot⟩ := hallowed
  by_cases hempty : name = ""
  · exact ⟨_, .nameless h (hempty ▸ hname)⟩
  · exact ⟨_, .unknown h hname hempty fun hmem => hnot ⟨hempty, hmem⟩⟩

/-- **Every text begins with tokens.** What is left after them is nothing, or it does not begin with
a token that refers to a given name. -/
theorem exists_splits (names : List String) (cs : List Char) :
    ∃ ts left, Splits names cs ts left ∧
      (left = [] ∨ ∀ offset, ∃ e, Offends names offset left e) := by
  -- On the length of the text: each token takes a character at least.
  induction hn : cs.length using Nat.strong_induction_on generalizing cs with
  | _ n ih =>
    by_cases hnil : cs = []
    · exact ⟨[], cs, .nil cs, .inl hnil⟩
    rcases exists_readBefore hnil with ⟨t, after, rfl, hbefore⟩ | ⟨rest, rfl, hclose⟩
    · by_cases hallowed : t.Allowed names
      · have hlength : after.length < n := by
          have hpos := List.length_pos_iff.2 t.spelled_ne_nil
          rw [List.length_append] at hn
          omega
        obtain ⟨ts, left, hsplits, hleft⟩ := ih _ hlength after rfl
        exact ⟨t :: ts, left, .cons hbefore hallowed hsplits, hleft⟩
      · exact ⟨[], _, .nil _, .inr (exists_offends hbefore hallowed)⟩
    · exact ⟨[], _, .nil _, .inr fun offset => ⟨_, .unterminated hclose⟩⟩

/-! ## What pieces say -/

/-- A character as it is written in a template. -/
def Token.ofChar (c : Char) : Token := if c = '$' then .dollar else .char c

/-- A token without a choice: a name always with braces around it. -/
def Token.plain : Token → Token
  | char c => ofChar c
  | dollar => dollar
  | braced name | bare name => braced name

theorem Token.value_ofChar (value? : String → Option String) (c : Char) :
    (ofChar c).value value? = String.singleton c := by
  unfold ofChar
  split
  · next h =>
    rw [h]
    rfl
  · rfl

theorem Token.value_plain (value? : String → Option String) (t : Token) :
    t.plain.value value? = t.value value? := by
  cases t with
  | char c => exact value_ofChar value? c
  | dollar | braced | bare => rfl

theorem Token.name?_ofChar (c : Char) : (ofChar c).name? = none := by
  unfold ofChar
  split <;> rfl

theorem Token.name?_plain (t : Token) : t.plain.name? = t.name? := by
  cases t with
  | char c => exact name?_ofChar c
  | dollar | braced | bare => rfl

/-- The tokens that say what a piece says. -/
def tokens : Segment → List Token
  | .literal text => text.toList.map Token.ofChar
  | .ref name => [.braced name]

section Pieces

variable {done pieces : List Segment}

theorem tokens_pushChar (c : Char) : (pushChar c done).reverse.flatMap tokens =
    done.reverse.flatMap tokens ++ [Token.ofChar c] := by
  unfold pushChar
  split
  · next text rest =>
    simp [List.flatMap_append, tokens]
  · simp [List.flatMap_append, tokens]

theorem tokens_push (t : Token) :
    (t.push done).reverse.flatMap tokens = done.reverse.flatMap tokens ++ [t.plain] := by
  cases t with
  | char c => exact tokens_pushChar c
  | dollar => exact tokens_pushChar '$'
  | braced | bare =>
    show ((_ :: done).reverse).flatMap tokens = _
    rw [List.reverse_cons, List.flatMap_append]
    rfl

/-- Pieces say what the tokens say that they are made of. -/
theorem tokens_foldl_push (ts : List Token) : (ts.foldl Token.push done).reverse.flatMap tokens =
    done.reverse.flatMap tokens ++ ts.map Token.plain := by
  induction ts generalizing done with
  | nil => exact (List.append_nil _).symm
  | cons t ts ih =>
    rw [List.foldl_cons, ih, tokens_push, List.append_assoc]
    rfl

theorem join_map_render (value? : String → Option String) (pieces : List Segment) :
    String.join (pieces.map (Segment.render value?)) =
      String.join ((pieces.flatMap tokens).map (Token.value value?)) := by
  induction pieces with
  | nil => rfl
  | cons piece pieces ih =>
    rw [List.map_cons, String.join_cons, ih, List.flatMap_cons, List.map_append, String.join_append]
    congr 1
    cases piece with
    | ref name =>
      show (value? name).getD "" = String.join [(value? name).getD ""]
      rw [String.join_cons, String.join_nil, String.append_empty]
    | literal text =>
      rw [← String.toList_inj, String.toList_join]
      simp [tokens, Segment.render, Token.value_ofChar, List.flatMap_map]

end Pieces

/-- The pieces that tokens are read as. -/
def ofTokens (ts : List Token) : List Segment := (ts.foldl Token.push []).reverse

theorem tokens_ofTokens (ts : List Token) :
    (ofTokens ts).flatMap tokens = ts.map Token.plain := tokens_foldl_push ts

theorem render_ofTokens (ts : List Token) (value? : String → Option String) :
    (Template.mk (ofTokens ts)).render value? = String.join (ts.map (Token.value value?)) := by
  show String.join ((ofTokens ts).map (Segment.render value?)) = _
  rw [join_map_render, tokens_ofTokens, List.map_map]
  exact congrArg String.join (List.map_congr_left fun t _ => Token.value_plain value? t)

theorem variableNames_eq (t : Template) :
    t.variableNames = (t.segments.flatMap tokens).filterMap Token.name? := by
  obtain ⟨pieces⟩ := t
  induction pieces with
  | nil => rfl
  | cons piece pieces ih =>
    unfold variableNames at ih ⊢
    dsimp only at ih ⊢
    rw [List.flatMap_cons, List.filterMap_append, ← ih]
    cases piece with
    | ref name => rfl
    | literal text =>
      have hnone : (tokens (.literal text)).filterMap Token.name? = [] := by
        refine List.filterMap_eq_nil_iff.2 fun t ht => ?_
        obtain ⟨c, -, rfl⟩ := List.mem_map.1 ht
        exact Token.name?_ofChar c
      rw [hnone]
      rfl

theorem variableNames_ofTokens (ts : List Token) :
    (Template.mk (ofTokens ts)).variableNames = ts.filterMap Token.name? := by
  rw [variableNames_eq, tokens_ofTokens, List.filterMap_map]
  exact congrArg (List.filterMap · ts) (funext Token.name?_plain)

/-! ## Whole templates -/

section Parse

variable {captures : List String} {source : String} {t : Template}

theorem known_iff (captures : List String) (name : String) :
    (builtins.contains name || captures.contains name) = true ↔ name ∈ builtins ++ captures := by
  simp

theorem parse_of_splits (hblank : Text.allBlank source = false) {ts : List Token}
    (h : Splits (builtins ++ captures) source.toList ts []) :
    parse captures source = .ok ⟨ofTokens ts⟩ := by
  unfold parse
  rw [if_neg (by simp [hblank]), readFrom_of_splits (known_iff captures) h, readFrom]
  rfl

theorem parse_of_offends (hblank : Text.allBlank source = false) {ts : List Token}
    {left : List Char} (h : Splits (builtins ++ captures) source.toList ts left) {e : Fault}
    (he : Offends (builtins ++ captures) (String.ofList (ts.flatMap Token.spelled)).utf8ByteSize
      left e) :
    parse captures source = .error e := by
  rw [← byteCount_eq, ← Nat.zero_add (byteCount _)] at he
  unfold parse
  rw [if_neg (by simp [hblank]), readFrom_of_splits (known_iff captures) h,
    readFrom_of_offends (known_iff captures) he]
  rfl

theorem parse_of_allBlank (hblank : Text.allBlank source = true) :
    parse captures source = .error .blank := by
  unfold parse
  rw [if_pos hblank]

/-- A text that is not blank is read to its end, or up to where it cannot be read on. -/
theorem parse_cases (captures : List String) (hblank : Text.allBlank source = false) :
    (∃ ts, Splits (builtins ++ captures) source.toList ts [] ∧
      parse captures source = .ok ⟨ofTokens ts⟩) ∨
    ∃ ts left e, Splits (builtins ++ captures) source.toList ts left ∧
      Offends (builtins ++ captures) (String.ofList (ts.flatMap Token.spelled)).utf8ByteSize
        left e ∧
      parse captures source = .error e := by
  obtain ⟨ts, left, hsplits, rfl | hleft⟩ := exists_splits (builtins ++ captures) source.toList
  · exact .inl ⟨ts, hsplits, parse_of_splits hblank hsplits⟩
  · obtain ⟨e, he⟩ := hleft (String.ofList (ts.flatMap Token.spelled)).utf8ByteSize
    exact .inr ⟨ts, left, e, hsplits, he, parse_of_offends hblank hsplits he⟩

/-- A template that has been read is a text that is made of tokens. -/
theorem exists_splits_of_parse (h : parse captures source = .ok t) :
    Text.allBlank source = false ∧
      ∃ ts, Splits (builtins ++ captures) source.toList ts [] ∧ t = ⟨ofTokens ts⟩ := by
  by_cases hblank : Text.allBlank source = true
  · cases h.symm.trans (parse_of_allBlank hblank)
  · have hblank' := Bool.eq_false_iff.2 hblank
    rcases parse_cases captures hblank' with ⟨ts, hsplits, hok⟩ | ⟨_, _, e, -, -, herror⟩
    · cases h.symm.trans hok
      exact ⟨hblank', ts, hsplits, rfl⟩
    · cases h.symm.trans herror

/-- **A template is not empty.** -/
theorem segments_ne_nil (h : parse captures source = .ok t) : t.segments ≠ [] := by
  obtain ⟨hblank, ts, hsplits, rfl⟩ := exists_splits_of_parse h
  intro hnil
  have hnone : ts.map Token.plain = [] := by
    rw [← tokens_ofTokens]
    show (Template.mk (ofTokens ts)).segments.flatMap tokens = []
    rw [hnil]
    rfl
  obtain rfl := List.map_eq_nil_iff.1 hnone
  exact Text.ne_empty_of_allBlank hblank (String.toList_eq_nil_iff.1 hsplits.eq_append)

/-- **A template refers to variables that there are.** -/
theorem isKnown_of_mem_variableNames (h : parse captures source = .ok t) {name : String}
    (hname : name ∈ t.variableNames) : name ∈ builtins ∨ name ∈ captures := by
  obtain ⟨-, ts, hsplits, rfl⟩ := exists_splits_of_parse h
  rw [variableNames_ofTokens] at hname
  obtain ⟨token, htoken, hname⟩ := List.mem_filterMap.1 hname
  exact List.mem_append.1 ((hsplits.of_mem htoken).2 name hname).2

end Parse

/-- **Templates are tokens.** A text is a template just if it is not blank and is made, from left to
right, of tokens whose names are builtins or captures. The message for some values is then what the
tokens stand for, one after the other, and the variables are the names in the tokens. If a text that
is not blank is no template, the error tells why no such token stands where the tokens end that it
begins with. -/
theorem parse_tokens (captures : List String) (source : String) :
    ((∃ t, parse captures source = .ok t) ↔ Text.allBlank source = false ∧
      ∃ ts, Splits (builtins ++ captures) source.toList ts []) ∧
    (∀ t ts, parse captures source = .ok t → Splits (builtins ++ captures) source.toList ts [] →
      (∀ value?, t.render value? = String.join (ts.map (Token.value value?))) ∧
      t.variableNames = ts.filterMap Token.name?) ∧
    (Text.allBlank source = false → ∀ e, parse captures source = .error e ↔
      ∃ ts left, Splits (builtins ++ captures) source.toList ts left ∧
        Offends (builtins ++ captures) (String.ofList (ts.flatMap Token.spelled)).utf8ByteSize
          left e) := by
  refine ⟨⟨?_, ?_⟩, ?_, ?_⟩
  · rintro ⟨t, ht⟩
    obtain ⟨hblank, ts, hsplits, -⟩ := exists_splits_of_parse ht
    exact ⟨hblank, ts, hsplits⟩
  · rintro ⟨hblank, ts, hsplits⟩
    exact ⟨_, parse_of_splits hblank hsplits⟩
  · intro t ts ht hsplits
    obtain ⟨hblank, -⟩ := exists_splits_of_parse ht
    cases ht.symm.trans (parse_of_splits hblank hsplits)
    exact ⟨render_ofTokens ts, variableNames_ofTokens ts⟩
  · intro hblank e
    constructor
    · intro he
      rcases parse_cases captures hblank with ⟨ts, -, hok⟩ | ⟨ts, left, e', hsplits, he', herror⟩
      · cases he.symm.trans hok
      · cases he.symm.trans herror
        exact ⟨ts, left, hsplits, he'⟩
    · rintro ⟨ts, left, hsplits, he⟩
      exact parse_of_offends hblank hsplits he

end Rulebook.Template
