import Rulebook.Json.Reader
import Rulebook.Json.Value

/-!
# Texts of JSON values

A text writes a value when it consists of the tokens of the value, with any white space around them
(`Writes`). Both printed forms do (`writes_toLine`, `writes_toLines`), and so does a printed form
with white space after it (`Writes.append`).

Tokens are listed together with those that follow the value, just as the printers take the text that
follows. That makes the printers and `tokens` recurse alike, and no list is ever taken apart again.
-/

namespace Rulebook.Json

/-! ## Tokens and layouts -/

mutual

/-- The tokens of a value, and then those that follow it. -/
def tokens : Json → List (List Char) → List (List Char)
  | null, rest => "null".toList :: rest
  | bool true, rest => "true".toList :: rest
  | bool false, rest => "false".toList :: rest
  | num n, rest => digits n :: rest
  | str s, rest => quote s :: rest
  | arr items, rest => ['['] :: itemTokens items ([']'] :: rest)
  | obj members, rest => ['\x7b'] :: memberTokens members (['\x7d'] :: rest)

def itemTokens : List Json → List (List Char) → List (List Char)
  | [], rest => rest
  | [v], rest => v.tokens rest
  | v :: vs, rest => v.tokens ([','] :: itemTokens vs rest)

def memberTokens : List (String × Json) → List (List Char) → List (List Char)
  | [], rest => rest
  | [(k, v)], rest => quote k :: [':'] :: v.tokens rest
  | (k, v) :: ms, rest => quote k :: [':'] :: v.tokens ([','] :: memberTokens ms rest)

end

def Blank (cs : List Char) : Prop := ∀ c ∈ cs, isBlank c = true

/-- A text consists of tokens with white space around them. -/
inductive Spaced : List (List Char) → List Char → Prop
  | nil {ws : List Char} : Blank ws → Spaced [] ws
  | cons {ws t cs : List Char} {ts : List (List Char)} : Blank ws → t ≠ [] → Spaced ts cs →
      Spaced (t :: ts) (ws ++ t ++ cs)

/-- A text writes a value, in some layout. -/
def Writes (text : String) (v : Json) : Prop := Spaced (v.tokens []) text.toList

theorem blank_nil : Blank [] := fun _ hc => absurd hc List.not_mem_nil

theorem blank_space : Blank [' '] := by
  intro c hc
  rw [List.mem_singleton.1 hc]
  rfl

theorem Blank.append {ws ws' : List Char} (h : Blank ws) (h' : Blank ws') : Blank (ws ++ ws') := by
  intro c hc
  rcases List.mem_append.1 hc with hc | hc
  · exact h c hc
  · exact h' c hc

theorem blank_newline (level : Nat) : Blank (newline level) := by
  intro c hc
  rcases List.mem_cons.1 hc with rfl | hc
  · rfl
  · rw [List.eq_of_mem_replicate hc]
    rfl

theorem Spaced.blank {ws cs : List Char} {ts : List (List Char)} (h : Spaced ts cs)
    (hws : Blank ws) : Spaced ts (ws ++ cs) := by
  cases h with
  | nil hws' => exact .nil (hws.append hws')
  | cons hws' ht h =>
    rw [← List.append_assoc, ← List.append_assoc]
    exact .cons (hws.append hws') ht h

theorem Spaced.append_blank {cs ws : List Char} {ts : List (List Char)} (h : Spaced ts cs)
    (hws : Blank ws) : Spaced ts (cs ++ ws) := by
  induction h with
  | nil hws' => exact .nil (hws'.append hws)
  | cons hws' ht _ ih =>
    rw [List.append_assoc]
    exact .cons hws' ht ih

/-- A token right at the start. -/
theorem Spaced.token {t cs : List Char} {ts : List (List Char)} (h : Spaced ts cs) (ht : t ≠ []) :
    Spaced (t :: ts) (t ++ cs) := .cons blank_nil ht h

theorem Spaced.char {cs : List Char} {ts : List (List Char)} (h : Spaced ts cs) (c : Char) :
    Spaced ([c] :: ts) (c :: cs) := h.token (List.cons_ne_nil c [])

theorem Spaced.quoted {cs : List Char} {ts : List (List Char)} (h : Spaced ts cs) (s : String) :
    Spaced (quote s :: ts) (quote s ++ cs) := h.token (List.cons_ne_nil _ _)

/-- There are no more tokens than characters. -/
theorem Spaced.length_le {cs : List Char} {ts : List (List Char)} (h : Spaced ts cs) :
    ts.length ≤ cs.length := by
  induction h with
  | nil => exact Nat.zero_le _
  | cons _ ht _ ih =>
    have hpos := List.length_pos_iff.2 ht
    simp only [List.length_cons, List.length_append]
    omega

/-! ## The printed forms -/

mutual

theorem spaced_compact : ∀ (v : Json) {ts : List (List Char)} {cs : List Char}, Spaced ts cs →
    Spaced (v.tokens ts) (v.compact cs)
  | null, _, _, h => h.token (by decide)
  | bool true, _, _, h => h.token (by decide)
  | bool false, _, _, h => h.token (by decide)
  | num _, _, _, h => h.token Nat.toDigits_ne_nil
  | str s, _, _, h => h.quoted s
  | arr items, _, _, h => (spaced_compactItems items (h.char ']')).char '['
  | obj members, _, _, h => (spaced_compactMembers members (h.char '\x7d')).char '\x7b'

theorem spaced_compactItems : ∀ (vs : List Json) {ts : List (List Char)} {cs : List Char},
    Spaced ts cs → Spaced (itemTokens vs ts) (compactItems vs cs)
  | [], _, _, h => h
  | [v], _, _, h => spaced_compact v h
  | v :: w :: vs, _, _, h => spaced_compact v ((spaced_compactItems (w :: vs) h).char ',')

theorem spaced_compactMembers : ∀ (ms : List (String × Json)) {ts : List (List Char)}
    {cs : List Char}, Spaced ts cs → Spaced (memberTokens ms ts) (compactMembers ms cs)
  | [], _, _, h => h
  | [(k, v)], _, _, h => ((spaced_compact v h).char ':').quoted k
  | (k, v) :: m :: ms, _, _, h =>
    ((spaced_compact v ((spaced_compactMembers (m :: ms) h).char ',')).char ':').quoted k

end

mutual

theorem spaced_pretty : ∀ (level : Nat) (v : Json) {ts : List (List Char)} {cs : List Char},
    Spaced ts cs → Spaced (v.tokens ts) (v.pretty level cs)
  | _, null, _, _, h => h.token (by decide)
  | _, bool true, _, _, h => h.token (by decide)
  | _, bool false, _, _, h => h.token (by decide)
  | _, num _, _, _, h => h.token Nat.toDigits_ne_nil
  | _, str s, _, _, h => h.quoted s
  | _, arr [], _, _, h => (h.char ']').char '['
  | level, arr (v :: vs), _, _, h =>
    (spaced_prettyItems (level + 1) (v :: vs)
      ((h.char ']').blank (blank_newline level))).char '['
  | _, obj [], _, _, h => (h.char '\x7d').char '\x7b'
  | level, obj (m :: ms), _, _, h =>
    (spaced_prettyMembers (level + 1) (m :: ms)
      ((h.char '\x7d').blank (blank_newline level))).char '\x7b'

theorem spaced_prettyItems : ∀ (level : Nat) (vs : List Json) {ts : List (List Char)}
    {cs : List Char}, Spaced ts cs → Spaced (itemTokens vs ts) (prettyItems level vs cs)
  | _, [], _, _, h => h
  | level, [v], _, _, h => (spaced_pretty level v h).blank (blank_newline level)
  | level, v :: w :: vs, _, _, h =>
    (spaced_pretty level v ((spaced_prettyItems level (w :: vs) h).char ',')).blank
      (blank_newline level)

theorem spaced_prettyMembers : ∀ (level : Nat) (ms : List (String × Json)) {ts : List (List Char)}
    {cs : List Char}, Spaced ts cs → Spaced (memberTokens ms ts) (prettyMembers level ms cs)
  | _, [], _, _, h => h
  | level, [(k, v)], _, _, h => by
    have hv := (spaced_pretty level v h).blank blank_space
    have hk := ((hv.char ':').quoted k).blank (blank_newline level)
    rwa [← List.append_assoc] at hk
  | level, (k, v) :: m :: ms, _, _, h => by
    have hrest := (spaced_prettyMembers level (m :: ms) h).char ','
    have hv := (spaced_pretty level v hrest).blank blank_space
    have hk := ((hv.char ':').quoted k).blank (blank_newline level)
    rwa [← List.append_assoc] at hk

end

theorem writes_toLine (v : Json) : Writes v.toLine v := by
  unfold Writes toLine
  rw [String.toList_ofList]
  exact spaced_compact v (.nil blank_nil)

theorem writes_toLines (v : Json) : Writes v.toLines v := by
  unfold Writes toLines
  rw [String.toList_ofList]
  exact spaced_pretty 0 v (.nil blank_nil)

/-- White space may follow. -/
theorem Writes.append {text : String} {v : Json} (h : Writes text v) {ws : String}
    (hws : Blank ws.toList) : Writes (text ++ ws) v := by
  unfold Writes at h ⊢
  rw [String.toList_append]
  exact h.append_blank hws

end Rulebook.Json
