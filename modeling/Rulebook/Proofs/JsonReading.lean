import Rulebook.Proofs.JsonTexts

/-!
# Reading what was written

**Theorem (`read_of_writes`).** A text that writes a value is read as that value, whatever its
layout, and up to its end.

A string is read from what is written for it (`stringBody_flatMap_escapeChar`), and a number from
its digits (`number_digits`), unless what follows could belong to the number. The reader goes from
token to token (`Spaced.next`). By induction on the value it takes just the tokens of the value and
stops where those after it begin (`value_of_spaced`); what may come after a value ends a number
(`Spaced.endsNumber`).

There is fuel enough when it is twice the number of tokens: a call of `elements` or `members` takes
one, and the call of `value` under it another.
-/

namespace Rulebook.Json

/-! ## Strings -/

theorem hexUnit_hexChar :
    ∀ n < 32, hexUnit '0' '0' (hexChar (n / 16)) (hexChar (n % 16)) = some n := by
  decide

theorem not_lt_of_space_le {c : Char} (h : ' ' ≤ c) : ¬ c < ' ' := Char.not_lt.2 h

theorem toNat_lt_of_not_space_le {c : Char} (h : ¬ ' ' ≤ c) : c.toNat < 32 :=
  UInt32.lt_iff_toNat_lt.1 (Char.not_le.1 h)

/-- **One character** of a string is read from what is written for it. -/
theorem stringBody_escapeChar (st : StringState) (c : Char) (rest : List Char) :
    stringBody st (escapeChar c ++ rest) = stringBody (st.push c) rest := by
  unfold escapeChar
  by_cases hquote : c = '"'
  · subst hquote
    simp [stringBody, simpleEscape?]
  by_cases hslash : c = '\\'
  · subst hslash
    simp [stringBody, simpleEscape?]
  by_cases hprint : ' ' ≤ c
  · simp [stringBody, hquote, hslash, hprint, not_lt_of_space_le hprint]
  have hcontrol := toNat_lt_of_not_space_le hprint
  simp only [hquote, hslash, hprint, if_false]
  by_cases hletter : c = '\x08' ∨ c = '\t' ∨ c = '\n' ∨ c = '\x0c' ∨ c = '\r'
  · rcases hletter with rfl | rfl | rfl | rfl | rfl <;> simp [stringBody, simpleEscape?]
  · simp only [not_or] at hletter
    obtain ⟨h1, h2, h3, h4, h5⟩ := hletter
    have hpush : st.pushUnit c.toNat = st.push c := by
      have hlow : c.toNat < 0xD800 := by omega
      simp [StringState.pushUnit, hlow, Char.ofNat_toNat]
    simp only [h1, h2, h3, h4, h5, if_false]
    simp [stringBody, hexUnit_hexChar c.toNat hcontrol, hpush]

theorem stringBody_quoted (st : StringState) (cs rest : List Char) :
    stringBody st (cs.flatMap escapeChar ++ '"' :: rest) =
      some ((cs.foldl StringState.push st).finish, rest) := by
  induction cs generalizing st with
  | nil => simp [stringBody]
  | cons c cs ih =>
    rw [List.flatMap_cons, List.append_assoc, stringBody_escapeChar, ih]
    rfl

theorem foldl_push (cs done : List Char) :
    cs.foldl StringState.push ⟨some done, none⟩ = ⟨some (cs.reverse ++ done), none⟩ := by
  induction cs generalizing done with
  | nil => rfl
  | cons c cs ih =>
    show cs.foldl StringState.push ⟨some (c :: done), none⟩ = _
    rw [ih, List.reverse_cons, List.append_assoc]
    rfl

/-- **A string** is read from what is written for it. -/
theorem stringBody_flatMap_escapeChar (cs rest : List Char) :
    stringBody {} (cs.flatMap escapeChar ++ '"' :: rest) = some (some cs, rest) := by
  rw [stringBody_quoted, foldl_push]
  simp [StringState.finish]

/-! ## Numbers -/

theorem digitChar_ne_zero : ∀ n < 10, 0 < n → n.digitChar ≠ '0' := by
  decide

theorem head?_digits_ne_zero {n : Nat} (h : 0 < n) : (digits n).head? ≠ some '0' := by
  unfold digits
  induction n using Nat.strongRecOn with
  | ind n ih =>
    rw [Nat.toDigits_eq_if (by omega)]
    by_cases hlt : n < 10
    · rw [if_pos hlt]
      simpa using digitChar_ne_zero n hlt h
    · rw [if_neg hlt]
      have hhead := ih (n / 10) (by omega) (by omega)
      obtain ⟨c, cs, hcs⟩ :=
        List.exists_cons_of_ne_nil (Nat.toDigits_ne_nil (n := n / 10) (b := 10))
      rw [hcs] at hhead ⊢
      exact hhead

theorem digits_one_or_head {n : Nat} : ¬ (1 < (digits n).length ∧ (digits n).head? = some '0') := by
  intro h
  cases n with
  | zero => exact absurd h.1 (by decide)
  | succ n => exact head?_digits_ne_zero (Nat.succ_pos n) h.2

theorem isDigit_of_mem_digits {n : Nat} {c : Char} (h : c ∈ digits n) : c.isDigit = true :=
  Nat.isDigit_of_mem_toDigits (by omega) (by omega) h

theorem toList_toString (n : Nat) : (toString n).toList = digits n := by
  rw [Nat.toString_eq_ofList_toDigits, String.toList_ofList]
  rfl

theorem exists_digits_eq_cons (n : Nat) : ∃ c cs, digits n = c :: cs ∧ c.isDigit = true := by
  obtain ⟨c, cs, hcs⟩ := List.exists_cons_of_ne_nil (Nat.toDigits_ne_nil (n := n) (b := 10))
  exact ⟨c, cs, hcs, isDigit_of_mem_digits (hcs ▸ List.mem_cons_self)⟩

/-- What may follow a number: nothing that could belong to it. -/
def EndsNumber (rest : List Char) : Prop :=
  ∀ c ∈ rest.head?, c.isDigit = false ∧ c ≠ '.' ∧ c ≠ 'e' ∧ c ≠ 'E'

theorem takeWhile_digits (n : Nat) {rest : List Char} (h : EndsNumber rest) :
    (digits n ++ rest).takeWhile Char.isDigit = digits n ∧
      (digits n ++ rest).dropWhile Char.isDigit = rest := by
  have hrest : rest.takeWhile Char.isDigit = [] ∧ rest.dropWhile Char.isDigit = rest := by
    cases rest with
    | nil => exact ⟨rfl, rfl⟩
    | cons c rest =>
      have hc := (h c rfl).1
      simp [hc]
  rw [List.takeWhile_append_of_pos fun c hc => isDigit_of_mem_digits hc,
    List.dropWhile_append_of_pos fun c hc => isDigit_of_mem_digits hc, hrest.1, hrest.2,
    List.append_nil]
  exact ⟨rfl, rfl⟩

/-- The parts of a whole number. -/
def wholeText (n : Nat) : NumberText := ⟨false, digits n, none, none⟩

/-- **A number** is read from its digits. -/
theorem number_digits (n : Nat) {rest : List Char} (h : EndsNumber rest) :
    number (digits n ++ rest) = some (wholeText n, rest) := by
  obtain ⟨htake, hdrop⟩ := takeWhile_digits n h
  obtain ⟨c, cs, hcs, hc⟩ := exists_digits_eq_cons n
  have hsign : c ≠ '-' := by
    rintro rfl
    cases hc
  have hlead : ¬ (1 < (c :: cs).length ∧ (c :: cs).head? = some '0') := hcs ▸ digits_one_or_head
  unfold number wholeText
  rw [hcs] at htake hdrop ⊢
  rw [List.cons_append] at htake hdrop ⊢
  split
  next negative cs' hcs' =>
  have hpair : false = negative ∧ c :: (cs ++ rest) = cs' := by simpa [hsign] using hcs'
  obtain ⟨rfl, rfl⟩ := hpair
  rw [htake, hdrop]
  have hwhole : ((c :: cs).isEmpty ||
      decide (1 < (c :: cs).length) && decide ((c :: cs).head? = some '0')) = false := by
    simpa using hlead
  simp only [hwhole]
  cases rest with
  | nil => rfl
  | cons c' rest =>
    obtain ⟨-, hdot, he, hE⟩ := h c' rfl
    simp [hdot, he, hE]

theorem takeDigits_of_lt {n : Nat} {ds : List Char} (h : Nat.ofDigitChars 10 ds n < UInt64.size) :
    takeDigits n ds = (Nat.ofDigitChars 10 ds n, []) := by
  induction ds generalizing n with
  | nil => rfl
  | cons d ds ih =>
    have hstep :
        Nat.ofDigitChars 10 (d :: ds) n = Nat.ofDigitChars 10 ds (n * 10 + digitValue d) := by
      simp [Nat.ofDigitChars_eq_foldl, digitValue, Nat.mul_comm]
    rw [hstep] at h ⊢
    have hlt : n * 10 + digitValue d < UInt64.size := by
      rw [Nat.ofDigitChars_eq_ofDigitChars_zero] at h
      have hpow : 0 < Nat.pow 10 ds.length := Nat.pow_pos (by omega)
      have hle : n * 10 + digitValue d ≤ 10 ^ ds.length * (n * 10 + digitValue d) :=
        Nat.le_mul_of_pos_left _ hpow
      omega
    unfold takeDigits
    simp only [hlt, if_true]
    exact ih h

/-- A number of 64 bits is a whole number. -/
theorem toScalar_wholeText {n : Nat} (h : n < UInt64.size) :
    (wholeText n).toScalar = .integer n := by
  have hvalue : Nat.ofDigitChars 10 (digits n) 0 = n := Nat.ofDigitChars_ten_toDigits
  have htake : takeDigits 0 (digits n) = (n, []) := by
    rw [takeDigits_of_lt (by rw [hvalue]; exact h), hvalue]
  simp [NumberText.toScalar, wholeText, htake]

/-! ## Values as data -/

/-- The key under which a member is read. -/
def memberKey (name : String) : Key :=
  ⟨String.ofList ((name.toList.flatMap escapeChar).takeWhile (· ≠ '"')), some name, nowhere⟩

mutual

/-- The tree that a value is read as. -/
def toData : Json → Data
  | null => leaf .null
  | bool b => leaf (.bool b)
  | num n => leaf (wholeText n).toScalar
  | str s => leaf (.text s)
  | arr items => .list nowhere (itemsToData items) .exact
  | obj members => .record nowhere (membersToData members) .exact

def itemsToData : List Json → List Data
  | [] => []
  | v :: vs => v.toData :: itemsToData vs

def membersToData : List (String × Json) → List (Key × Data)
  | [] => []
  | (k, v) :: ms => (memberKey k, v.toData) :: membersToData ms

end

theorem itemsToData_eq (vs : List Json) : itemsToData vs = vs.map toData := by
  induction vs with
  | nil => rfl
  | cons v vs ih => rw [itemsToData, ih, List.map_cons]

theorem membersToData_eq (ms : List (String × Json)) :
    membersToData ms = ms.map fun m => (memberKey m.1, m.2.toData) := by
  induction ms with
  | nil => rfl
  | cons m ms ih => rw [membersToData, ih, List.map_cons]

theorem keyOf_quoted (name : String) (rest : List Char) :
    keyOf (name.toList.flatMap escapeChar ++ '"' :: rest) (some name.toList) = memberKey name := by
  have htake (cs : List Char) :
      (cs ++ '"' :: rest).takeWhile (· ≠ '"') = cs.takeWhile (· ≠ '"') := by
    induction cs with
    | nil => simp
    | cons c cs ih =>
      by_cases hc : c = '"'
      · simp [hc]
      · simpa [hc] using ih
  simp only [keyOf, memberKey, htake, Option.map_some, String.ofList_toList]

/-- A digit stands for itself in a string. -/
theorem escapeChar_of_isDigit {c : Char} (h : c.isDigit = true) :
    escapeChar c = [c] ∧ c ≠ '"' := by
  have hquote : c ≠ '"' := by
    rintro rfl
    cases h
  have hslash : c ≠ '\\' := by
    rintro rfl
    cases h
  have hprint : ' ' ≤ c := by
    simp only [Char.isDigit, ge_iff_le, Bool.and_eq_true, decide_eq_true_eq] at h
    exact UInt32.le_trans (by decide) h.1
  simp [escapeChar, hquote, hslash, hprint]

/-- A number as a key. -/
theorem raw_memberKey_toString (n : Nat) : (memberKey (toString n)).raw = toString n := by
  have hplain (cs : List Char) (h : ∀ c ∈ cs, c.isDigit = true) :
      (cs.flatMap escapeChar).takeWhile (· ≠ '"') = cs := by
    induction cs with
    | nil => rfl
    | cons c cs ih =>
      obtain ⟨hc, hcs⟩ := List.forall_mem_cons.1 h
      obtain ⟨hescape, hquote⟩ := escapeChar_of_isDigit hc
      rw [List.flatMap_cons, hescape, List.singleton_append,
        List.takeWhile_cons_of_pos (by simpa using hquote), ih hcs]
  show String.ofList (((toString n).toList.flatMap escapeChar).takeWhile (· ≠ '"')) = _
  rw [toList_toString, hplain _ fun c hc => isDigit_of_mem_digits hc, ← toList_toString,
    String.ofList_toList]

/-! ## From token to token -/

theorem skipBlanks_append {ws : List Char} (hws : Blank ws) {c : Char} (hc : isBlank c = false)
    (cs : List Char) : skipBlanks (ws ++ c :: cs) = c :: cs := by
  unfold skipBlanks
  rw [List.dropWhile_append_of_pos hws, List.dropWhile_cons_of_neg (by simp [hc])]

/-- **The next token.** The reader skips the white space before it. -/
theorem Spaced.next {c : Char} {t cs : List Char} {ts : List (List Char)}
    (h : Spaced ((c :: t) :: ts) cs) (hc : isBlank c = false) :
    ∃ rest, Spaced ts rest ∧ skipBlanks cs = c :: (t ++ rest) := by
  cases h with
  | @cons ws _ rest _ hws _ hrest =>
    refine ⟨rest, hrest, ?_⟩
    rw [List.append_assoc]
    exact skipBlanks_append hws hc (t ++ rest)

/-- Skipping white space leaves the tokens that there are. -/
theorem Spaced.afterBlanks {c : Char} {t cs : List Char} {ts : List (List Char)}
    (h : Spaced ((c :: t) :: ts) cs) (hc : isBlank c = false) :
    Spaced ((c :: t) :: ts) (skipBlanks cs) := by
  obtain ⟨rest, hrest, hskip⟩ := h.next hc
  rw [hskip]
  exact hrest.token (List.cons_ne_nil c t)

theorem Spaced.next_quote {s : String} {cs : List Char} {ts : List (List Char)}
    (h : Spaced (quote s :: ts) cs) :
    ∃ rest, Spaced ts rest ∧
      skipBlanks cs = '"' :: (s.toList.flatMap escapeChar ++ '"' :: rest) := by
  obtain ⟨rest, hrest, hskip⟩ := h.next rfl
  refine ⟨rest, hrest, hskip.trans (congrArg ('"' :: ·) ?_)⟩
  exact List.append_assoc ..

/-- Tokens that can come after a value. -/
def Closes (ts : List (List Char)) : Prop :=
  ∀ t ∈ ts.head?, t = [','] ∨ t = [']'] ∨ t = ['\x7d']

theorem endsNumber_of_isBlank {c : Char} (h : isBlank c = true) (cs : List Char) :
    EndsNumber (c :: cs) := by
  intro c' hc'
  cases hc'
  simp only [isBlank, Bool.or_eq_true, decide_eq_true_eq] at h
  rcases h with ((rfl | rfl) | rfl) | rfl <;> decide

theorem Spaced.endsNumber {ts : List (List Char)} {cs : List Char} (h : Spaced ts cs)
    (hts : Closes ts) : EndsNumber cs := by
  cases h with
  | @nil ws hws =>
    cases cs with
    | nil => exact fun c hc => by cases hc
    | cons c cs => exact endsNumber_of_isBlank (hws c List.mem_cons_self) cs
  | @cons ws t rest ts hws _ hrest =>
    cases ws with
    | nil =>
      intro c hc
      rcases hts t rfl with rfl | rfl | rfl <;> cases hc <;> decide
    | cons c ws => exact endsNumber_of_isBlank (hws c List.mem_cons_self) _

mutual

theorem length_lt_tokens : ∀ (v : Json) (ts : List (List Char)), ts.length < (v.tokens ts).length
  | null, ts | num _, ts | str _, ts => Nat.lt_succ_self ts.length
  | bool true, ts | bool false, ts => Nat.lt_succ_self ts.length
  | arr items, ts => by
    have hitems := length_le_itemTokens items ([']'] :: ts)
    simp only [tokens, List.length_cons] at hitems ⊢
    omega
  | obj members, ts => by
    have hmembers := length_le_memberTokens members (['\x7d'] :: ts)
    simp only [tokens, List.length_cons] at hmembers ⊢
    omega

theorem length_le_itemTokens : ∀ (vs : List Json) (ts : List (List Char)),
    ts.length ≤ (itemTokens vs ts).length
  | [], ts => Nat.le_refl ts.length
  | [v], ts => Nat.le_of_lt (length_lt_tokens v ts)
  | v :: w :: vs, ts => by
    have hv := length_lt_tokens v ([','] :: itemTokens (w :: vs) ts)
    have hvs := length_le_itemTokens (w :: vs) ts
    simp only [itemTokens, List.length_cons] at hv hvs ⊢
    omega

theorem length_le_memberTokens : ∀ (ms : List (String × Json)) (ts : List (List Char)),
    ts.length ≤ (memberTokens ms ts).length
  | [], ts => Nat.le_refl ts.length
  | [(_, v)], ts => by
    have hv := length_lt_tokens v ts
    simp only [memberTokens, List.length_cons]
    omega
  | (_, v) :: m :: ms, ts => by
    have hv := length_lt_tokens v ([','] :: memberTokens (m :: ms) ts)
    have hms := length_le_memberTokens (m :: ms) ts
    simp only [memberTokens, List.length_cons] at hv hms ⊢
    omega

end

/-! ## Values -/

theorem value_of_digit {c : Char} {cs r rest : List Char} {n : NumberText}
    (hskip : skipBlanks cs = c :: r) (hc : c.isDigit = true)
    (hnumber : number (c :: r) = some (n, rest)) (fuel : Nat) :
    value (fuel + 1) cs = (leaf n.toScalar, some rest) := by
  have hne {d : Char} (hd : d.isDigit = false) : c ≠ d := by
    rintro rfl
    rw [hd] at hc
    cases hc
  have hn := hne (d := 'n') rfl
  have ht := hne (d := 't') rfl
  have hf := hne (d := 'f') rfl
  have hquote := hne (d := '"') rfl
  have hbracket := hne (d := '[') rfl
  have hbrace := hne (d := '\x7b') rfl
  simp [value, hskip, hn, ht, hf, hquote, hbracket, hbrace, hnumber]

theorem toList_null : "null".toList = ['n', 'u', 'l', 'l'] := by simp

theorem toList_true : "true".toList = ['t', 'r', 'u', 'e'] := by simp

theorem toList_false : "false".toList = ['f', 'a', 'l', 's', 'e'] := by simp

/-- The first token of a value does not close a list, nor is it white space. -/
theorem exists_tokens_eq_cons (v : Json) (ts : List (List Char)) :
    ∃ c t rest, v.tokens ts = (c :: t) :: rest ∧ isBlank c = false ∧ c ≠ ']' := by
  cases v with
  | null => exact ⟨_, _, _, rfl, rfl, by decide⟩
  | bool b => cases b <;> exact ⟨_, _, _, rfl, rfl, by decide⟩
  | num n =>
    obtain ⟨c, t, ht, hc⟩ := exists_digits_eq_cons n
    refine ⟨c, t, ts, congrArg (· :: ts) ht, ?_, ?_⟩
    · rw [Bool.eq_false_iff]
      intro hblank
      simp only [isBlank, Bool.or_eq_true, decide_eq_true_eq] at hblank
      rcases hblank with ((rfl | rfl) | rfl) | rfl <;> cases hc
    · rintro rfl
      cases hc
  | str s => exact ⟨_, _, _, rfl, rfl, by decide⟩
  | arr items => exact ⟨_, _, _, rfl, rfl, by decide⟩
  | obj members => exact ⟨_, _, _, rfl, rfl, by decide⟩

theorem exists_itemTokens_eq_cons (v : Json) (vs : List Json) (ts : List (List Char)) :
    ∃ c t rest, itemTokens (v :: vs) ts = (c :: t) :: rest ∧ isBlank c = false ∧ c ≠ ']' := by
  cases vs with
  | nil => exact exists_tokens_eq_cons v ts
  | cons w vs => exact exists_tokens_eq_cons v _

theorem exists_memberTokens_eq_cons (m : String × Json) (ms : List (String × Json))
    (ts : List (List Char)) : ∃ rest, memberTokens (m :: ms) ts = quote m.1 :: rest := by
  cases ms with
  | nil => exact ⟨_, rfl⟩
  | cons _ _ => exact ⟨_, rfl⟩

theorem closes_comma (ts : List (List Char)) : Closes ([','] :: ts) := by
  intro t ht
  cases ht
  exact .inl rfl

theorem closes_bracket (ts : List (List Char)) : Closes ([']'] :: ts) := by
  intro t ht
  cases ht
  exact .inr (.inl rfl)

theorem closes_brace (ts : List (List Char)) : Closes (['\x7d'] :: ts) := by
  intro t ht
  cases ht
  exact .inr (.inr rfl)

mutual

/-- **A value** is read from its tokens, and nothing after them is touched. -/
theorem value_of_spaced : ∀ (v : Json) {ts : List (List Char)} {cs : List Char} {fuel : Nat},
    Spaced (v.tokens ts) cs → Closes ts → 2 * (v.tokens ts).length ≤ fuel →
    ∃ rest, Spaced ts rest ∧ value fuel cs = (v.toData, some rest)
  | v, ts, cs, 0, h, hts, hfuel => by
    have hlength := length_lt_tokens v ts
    omega
  | null, ts, cs, fuel + 1, h, hts, hfuel => by
    rw [tokens, toList_null] at h
    obtain ⟨rest, hrest, hskip⟩ := h.next rfl
    exact ⟨rest, hrest, by simp [value, hskip, toData]⟩
  | bool true, ts, cs, fuel + 1, h, hts, hfuel => by
    rw [tokens, toList_true] at h
    obtain ⟨rest, hrest, hskip⟩ := h.next rfl
    exact ⟨rest, hrest, by simp [value, hskip, toData]⟩
  | bool false, ts, cs, fuel + 1, h, hts, hfuel => by
    rw [tokens, toList_false] at h
    obtain ⟨rest, hrest, hskip⟩ := h.next rfl
    exact ⟨rest, hrest, by simp [value, hskip, toData]⟩
  | num n, ts, cs, fuel + 1, h, hts, hfuel => by
    obtain ⟨c, t, ht, hc⟩ := exists_digits_eq_cons n
    obtain ⟨d, t', rest', heq, hblank, -⟩ := exists_tokens_eq_cons (num n) ts
    rw [heq] at h
    cases heq.symm.trans (congrArg (· :: ts) ht : tokens (num n) ts = _)
    obtain ⟨rest, hrest, hskip⟩ := h.next hblank
    have hnumber := number_digits n (hrest.endsNumber hts)
    rw [ht] at hnumber
    exact ⟨rest, hrest, value_of_digit hskip hc hnumber fuel⟩
  | str s, ts, cs, fuel + 1, h, hts, hfuel => by
    obtain ⟨rest, hrest, hskip⟩ := Spaced.next_quote h
    refine ⟨rest, hrest, ?_⟩
    simp [value, hskip, stringBody_flatMap_escapeChar, toData]
  | arr [], ts, cs, fuel + 1, h, hts, hfuel => by
    obtain ⟨inner, hinner, hskip⟩ := h.next rfl
    obtain ⟨rest, hrest, hskip'⟩ := hinner.next rfl
    exact ⟨rest, hrest, by simp [value, hskip, hskip', toData, itemsToData]⟩
  | arr (v :: vs), ts, cs, fuel + 1, h, hts, hfuel => by
    obtain ⟨inner, hinner, hskip⟩ := h.next rfl
    obtain ⟨c, t, more, hfirst, hblank, hc⟩ := exists_itemTokens_eq_cons v vs ([']'] :: ts)
    have hle : 2 * (itemTokens (v :: vs) ([']'] :: ts)).length + 1 ≤ fuel := by
      rw [tokens, List.length_cons] at hfuel
      omega
    have hspaced : Spaced (itemTokens (v :: vs) ([']'] :: ts)) (skipBlanks inner) := by
      rw [hfirst] at hinner ⊢
      exact hinner.afterBlanks hblank
    obtain ⟨rest, hrest, helements⟩ :=
      elements_of_spaced (v :: vs) (List.cons_ne_nil v vs) [] hspaced hle
    refine ⟨rest, hrest, ?_⟩
    rw [hfirst] at hinner
    obtain ⟨after, -, hskip'⟩ := hinner.next hblank
    rw [hskip'] at helements
    simp [value, hskip, hskip', hc, helements, toData]
  | obj [], ts, cs, fuel + 1, h, hts, hfuel => by
    obtain ⟨inner, hinner, hskip⟩ := h.next rfl
    obtain ⟨rest, hrest, hskip'⟩ := hinner.next rfl
    exact ⟨rest, hrest, by simp [value, hskip, hskip', toData, membersToData]⟩
  | obj (m :: ms), ts, cs, fuel + 1, h, hts, hfuel => by
    obtain ⟨inner, hinner, hskip⟩ := h.next rfl
    obtain ⟨more, hfirst⟩ := exists_memberTokens_eq_cons m ms (['\x7d'] :: ts)
    have hle : 2 * (memberTokens (m :: ms) (['\x7d'] :: ts)).length + 1 ≤ fuel := by
      rw [tokens, List.length_cons] at hfuel
      omega
    have hspaced : Spaced (memberTokens (m :: ms) (['\x7d'] :: ts)) (skipBlanks inner) := by
      rw [hfirst] at hinner ⊢
      exact hinner.afterBlanks rfl
    obtain ⟨rest, hrest, hmembers⟩ :=
      members_of_spaced (m :: ms) (List.cons_ne_nil m ms) [] hspaced hle
    refine ⟨rest, hrest, ?_⟩
    rw [hfirst] at hinner
    obtain ⟨after, -, hskip'⟩ := hinner.next_quote
    rw [hskip'] at hmembers
    simp [value, hskip, hskip', hmembers, toData]

theorem elements_of_spaced : ∀ (vs : List Json) (_ : vs ≠ []) (done : List Data)
    {ts : List (List Char)} {cs : List Char} {fuel : Nat},
    Spaced (itemTokens vs ([']'] :: ts)) cs → 2 * (itemTokens vs ([']'] :: ts)).length + 1 ≤ fuel →
    ∃ rest, Spaced ts rest ∧
      elements fuel cs done = (.list nowhere (done.reverse ++ itemsToData vs) .exact, some rest)
  | [], hne, _, _, _, _, _, _ => absurd rfl hne
  | v :: vs, _, done, ts, cs, 0, _, hfuel => by omega
  | [v], _, done, ts, cs, fuel + 1, h, hfuel => by
    obtain ⟨inner, hinner, hvalue⟩ :=
      value_of_spaced v h (closes_bracket ts) (Nat.le_of_succ_le_succ hfuel)
    obtain ⟨rest, hrest, hskip⟩ := hinner.next rfl
    refine ⟨rest, hrest, ?_⟩
    simp [elements, hvalue, hskip, itemsToData]
  | v :: w :: vs, _, done, ts, cs, fuel + 1, h, hfuel => by
    have hfuel' : 2 * (v.tokens ([','] :: itemTokens (w :: vs) ([']'] :: ts))).length ≤ fuel :=
      Nat.le_of_succ_le_succ hfuel
    obtain ⟨inner, hinner, hvalue⟩ :=
      value_of_spaced v h (closes_comma _) hfuel'
    obtain ⟨after, hafter, hskip⟩ := hinner.next rfl
    have hle : 2 * (itemTokens (w :: vs) ([']'] :: ts)).length + 1 ≤ fuel := by
      have hlength := length_lt_tokens v ([','] :: itemTokens (w :: vs) ([']'] :: ts))
      rw [List.length_cons] at hlength
      omega
    obtain ⟨rest, hrest, helements⟩ :=
      elements_of_spaced (w :: vs) (List.cons_ne_nil w vs) (v.toData :: done) hafter hle
    refine ⟨rest, hrest, ?_⟩
    simp [elements, hvalue, hskip, helements, itemsToData]

theorem members_of_spaced : ∀ (ms : List (String × Json)) (_ : ms ≠ []) (done : List (Key × Data))
    {ts : List (List Char)} {cs : List Char} {fuel : Nat},
    Spaced (memberTokens ms (['\x7d'] :: ts)) cs →
    2 * (memberTokens ms (['\x7d'] :: ts)).length + 1 ≤ fuel →
    ∃ rest, Spaced ts rest ∧
      members fuel cs done = (.record nowhere (done.reverse ++ membersToData ms) .exact, some rest)
  | [], hne, _, _, _, _, _, _ => absurd rfl hne
  | m :: ms, _, done, ts, cs, 0, _, hfuel => by omega
  | [(k, v)], _, done, ts, cs, fuel + 1, h, hfuel => by
    obtain ⟨colon, hcolon, hkey⟩ := Spaced.next_quote h
    obtain ⟨inner, hinner, hskip⟩ := hcolon.next rfl
    have hle : 2 * (v.tokens (['\x7d'] :: ts)).length ≤ fuel := by
      rw [memberTokens, List.length_cons, List.length_cons] at hfuel
      omega
    obtain ⟨after, hafter, hvalue⟩ := value_of_spaced v hinner (closes_brace ts) hle
    obtain ⟨rest, hrest, hskip'⟩ := hafter.next rfl
    refine ⟨rest, hrest, ?_⟩
    simp [members, hkey, stringBody_flatMap_escapeChar, keyOf_quoted, hskip, hvalue, hskip',
      membersToData]
  | (k, v) :: m :: ms, _, done, ts, cs, fuel + 1, h, hfuel => by
    obtain ⟨colon, hcolon, hkey⟩ := Spaced.next_quote h
    obtain ⟨inner, hinner, hskip⟩ := hcolon.next rfl
    have hfuel' : 2 * ((v.tokens ([','] :: memberTokens (m :: ms) (['\x7d'] :: ts))).length + 2) ≤
        fuel := Nat.le_of_succ_le_succ hfuel
    have hlength := length_lt_tokens v ([','] :: memberTokens (m :: ms) (['\x7d'] :: ts))
    rw [List.length_cons] at hlength
    obtain ⟨after, hafter, hvalue⟩ :=
      value_of_spaced v hinner (closes_comma _) (show 2 * _ ≤ fuel by omega)
    obtain ⟨next, hnext, hskip'⟩ := hafter.next rfl
    have hle : 2 * (memberTokens (m :: ms) (['\x7d'] :: ts)).length + 1 ≤ fuel := by omega
    obtain ⟨rest, hrest, hmembers⟩ :=
      members_of_spaced (m :: ms) (List.cons_ne_nil m ms) ((memberKey k, v.toData) :: done) hnext
        hle
    refine ⟨rest, hrest, ?_⟩
    simp [members, hkey, stringBody_flatMap_escapeChar, keyOf_quoted, hskip, hvalue, hskip',
      hmembers, membersToData]

end

/-! ## Texts -/

theorem closes_nil : Closes [] := fun _ ht => by cases ht

theorem skipBlanks_of_blank {ws : List Char} (h : Blank ws) : skipBlanks ws = [] := by
  unfold skipBlanks
  rw [← List.append_nil ws, List.dropWhile_append_of_pos h, List.dropWhile_nil]

/-- **A text** that writes a value is read as that value, up to its end. -/
theorem read_of_writes {text : String} {v : Json} (h : Writes text v) :
    read text = (v.toData, true) := by
  have hlength : 2 * (v.tokens []).length ≤ 2 * text.toList.length + 2 := by
    have hle := Spaced.length_le h
    omega
  obtain ⟨rest, hrest, hvalue⟩ := value_of_spaced v h closes_nil hlength
  have hend : skipBlanks rest = [] := by
    cases hrest with
    | nil hws => exact skipBlanks_of_blank hws
  simp [read, hvalue, hend]

end Rulebook.Json
