/-!
# The order of texts is the order of their bytes

Texts are compared character by character. Encoded as UTF-8 they compare byte by byte in the same
way (`lt_iff_bytes_lt`), since of two characters the greater has the greater encoding, and neither
encoding is the beginning of the other (`encode_append_lt`). So the bytes determine the text
(`bytes_inj`), and also where a text begins with another one (`flatMap_encode_eq_append`).
-/

namespace Rulebook.Text

open String (utf8EncodeChar)

/-- The bytes that a text is encoded in. -/
def bytes (s : String) : List UInt8 := s.toUTF8.data.toList

theorem bytes_eq_flatMap (s : String) : bytes s = s.toList.flatMap utf8EncodeChar := by
  have h : s.toUTF8 = (s.toList.flatMap utf8EncodeChar).toByteArray := by
    conv => lhs; rw [← String.ofList_toList (s := s)]
    rfl
  unfold bytes
  rw [h, List.toList_data_toByteArray]

/-- A character is encoded in one byte to four, each of them six bits to the byte but the first. -/
theorem encode_cases (c : Char) :
    let v := c.val.toNat
    v < 0x80 ∧ utf8EncodeChar c = [.ofNat v] ∨
    (0x80 ≤ v ∧ v < 0x800) ∧ utf8EncodeChar c = [.ofNat (v / 64 + 192), .ofNat (v % 64 + 128)] ∨
    (0x800 ≤ v ∧ v < 0x10000) ∧ utf8EncodeChar c =
      [.ofNat (v / 64 / 64 + 224), .ofNat (v / 64 % 64 + 128), .ofNat (v % 64 + 128)] ∨
    (0x10000 ≤ v ∧ v < 0x110000) ∧ utf8EncodeChar c =
      [.ofNat (v / 64 / 64 / 64 + 240), .ofNat (v / 64 / 64 % 64 + 128),
        .ofNat (v / 64 % 64 + 128), .ofNat (v % 64 + 128)] := by
  intro v
  have hv : v < 0x110000 := by
    rcases c.valid with h | h
    · exact Nat.lt_trans h (by decide)
    · exact h.2
  have hencode : utf8EncodeChar c =
      if v ≤ 127 then [.ofNat v]
      else if v ≤ 2047 then [.ofNat (v / 64 % 32 + 192), .ofNat (v % 64 + 128)]
      else if v ≤ 65535 then
        [.ofNat (v / 4096 % 16 + 224), .ofNat (v / 64 % 64 + 128), .ofNat (v % 64 + 128)]
      else [.ofNat (v / 262144 % 8 + 240), .ofNat (v / 4096 % 64 + 128),
        .ofNat (v / 64 % 64 + 128), .ofNat (v % 64 + 128)] := rfl
  have hsecond : v / 4096 = v / 64 / 64 := (Nat.div_div_eq_div_mul v 64 64).symm
  by_cases h₁ : v ≤ 127
  · exact .inl ⟨by omega, by rw [hencode, if_pos h₁]⟩
  by_cases h₂ : v ≤ 2047
  · have hlead : v / 64 % 32 = v / 64 := Nat.mod_eq_of_lt (by omega)
    exact .inr (.inl ⟨by omega, by rw [hencode, if_neg h₁, if_pos h₂, hlead]⟩)
  by_cases h₃ : v ≤ 65535
  · have hlead : v / 4096 % 16 = v / 64 / 64 := by omega
    exact .inr (.inr (.inl ⟨by omega, by rw [hencode, if_neg h₁, if_neg h₂, if_pos h₃, hlead]⟩))
  · have hlead : v / 262144 % 8 = v / 64 / 64 / 64 := by omega
    refine .inr (.inr (.inr ⟨by omega, ?_⟩))
    rw [hencode, if_neg h₁, if_neg h₂, if_neg h₃, hlead, hsecond]

/-- Of two characters the greater has the greater encoding, whatever comes after. The encodings
differ first where the characters, written six bits at a time, do. -/
theorem encode_append_lt {c d : Char} (h : c < d) (x y : List UInt8) :
    utf8EncodeChar c ++ x < utf8EncodeChar d ++ y := by
  have hdigit {v w : Nat} (hlt : v < w) :
      v / 64 < w / 64 ∨ v / 64 = w / 64 ∧ v % 64 < w % 64 := by omega
  have hlast := hdigit (show c.val.toNat < d.val.toNat from h)
  have hthird (hlt : c.val.toNat / 64 < d.val.toNat / 64) := hdigit hlt
  have hsecond (hlt : c.val.toNat / 64 / 64 < d.val.toNat / 64 / 64) := hdigit hlt
  rcases encode_cases c with ⟨hv, hc⟩ | ⟨hv, hc⟩ | ⟨hv, hc⟩ | ⟨hv, hc⟩ <;>
    rcases encode_cases d with ⟨hw, hd⟩ | ⟨hw, hd⟩ | ⟨hw, hd⟩ | ⟨hw, hd⟩ <;>
    rw [hc, hd] <;>
    simp (disch := omega) only [List.cons_append, List.nil_append, List.cons_lt_cons_iff,
      UInt8.lt_iff_toNat_lt, ← UInt8.toNat_inj, UInt8.toNat_ofNat', Nat.mod_eq_of_lt] <;>
    omega

theorem flatMap_encode_lt {cs ds : List Char} (h : cs < ds) :
    cs.flatMap utf8EncodeChar < ds.flatMap utf8EncodeChar := by
  induction cs generalizing ds with
  | nil =>
    cases ds with
    | nil => exact absurd h (List.lt_irrefl [])
    | cons d ds =>
      rw [List.flatMap_cons]
      rcases encode_cases d with ⟨-, hd⟩ | ⟨-, hd⟩ | ⟨-, hd⟩ | ⟨-, hd⟩ <;>
        rw [hd] <;> exact List.nil_lt_cons ..
  | cons c cs ih =>
    cases ds with
    | nil => exact absurd h (List.not_lt_nil _)
    | cons d ds =>
      rw [List.flatMap_cons, List.flatMap_cons]
      rcases List.cons_lt_cons_iff.1 h with hlt | ⟨rfl, hlt⟩
      · exact encode_append_lt hlt _ _
      · exact List.append_left_lt (ih hlt)

/-- **Byte by byte.** Texts are in the order of their bytes. -/
theorem lt_iff_bytes_lt (s t : String) : s < t ↔ bytes s < bytes t := by
  have hlt {s t : String} (h : s < t) : bytes s < bytes t := by
    rw [bytes_eq_flatMap, bytes_eq_flatMap]
    exact flatMap_encode_lt (String.lt_iff.1 h)
  refine ⟨hlt, fun h => ?_⟩
  rcases Std.lt_trichotomy s t with hst | rfl | hts
  · exact hst
  · exact absurd h (List.lt_irrefl _)
  · exact absurd h (List.lt_asymm (hlt hts))

/-! ## Bytes determine the text -/

/-- No encoding of a character is the beginning of another. -/
theorem encode_append_inj {c d : Char} {x y : List UInt8}
    (h : utf8EncodeChar c ++ x = utf8EncodeChar d ++ y) : c = d ∧ x = y := by
  rcases Std.lt_trichotomy c d with hlt | rfl | hlt
  · exact absurd (encode_append_lt hlt x y) (h ▸ List.lt_irrefl _)
  · exact ⟨rfl, List.append_cancel_left h⟩
  · exact absurd (encode_append_lt hlt y x) (h ▸ List.lt_irrefl _)

/-- A text whose bytes begin with those of another text begins with that text. -/
theorem flatMap_encode_eq_append {cs ds : List Char} {x : List UInt8}
    (h : cs.flatMap utf8EncodeChar = ds.flatMap utf8EncodeChar ++ x) :
    ∃ rest, cs = ds ++ rest ∧ x = rest.flatMap utf8EncodeChar := by
  induction ds generalizing cs with
  | nil => exact ⟨cs, rfl, h.symm⟩
  | cons d ds ih =>
    rw [List.flatMap_cons, List.append_assoc] at h
    cases cs with
    | nil =>
      have hnil := (List.append_eq_nil_iff.1 h.symm).1
      exact absurd hnil String.utf8EncodeChar_ne_nil
    | cons c cs =>
      obtain ⟨rfl, hrest⟩ := encode_append_inj h
      obtain ⟨rest, rfl, hx⟩ := ih hrest
      exact ⟨rest, rfl, hx⟩

theorem flatMap_encode_inj {cs ds : List Char} :
    cs.flatMap utf8EncodeChar = ds.flatMap utf8EncodeChar ↔ cs = ds := by
  refine ⟨fun h => ?_, congrArg _⟩
  rw [← List.append_nil (ds.flatMap _)] at h
  obtain ⟨rest, hrest, hnil⟩ := flatMap_encode_eq_append h
  cases rest with
  | nil => exact hrest.trans (List.append_nil ds)
  | cons c rest => exact absurd (List.append_eq_nil_iff.1 hnil.symm).1 String.utf8EncodeChar_ne_nil

theorem bytes_inj {s t : String} : bytes s = bytes t ↔ s = t := by
  rw [bytes_eq_flatMap, bytes_eq_flatMap, flatMap_encode_inj, String.toList_inj]

/-- The bytes are the same as a list, however they are listed. -/
theorem toList_toUTF8 (s : String) : s.toUTF8.toList = bytes s := by
  have hloop (b : ByteArray) (n i : Nat) (r : List UInt8) (h : n = b.size - i) :
      ByteArray.toList.loop b i r = r.reverse ++ b.data.toList.drop i := by
    induction n generalizing i r with
    | zero =>
      rw [ByteArray.toList.loop, if_neg (by omega), List.drop_eq_nil_of_le, List.append_nil]
      show b.data.size ≤ i
      have : b.size = b.data.size := rfl
      omega
    | succ n ih =>
      have hi : i < b.size := by omega
      have hi' : i < b.data.toList.length := hi
      rw [ByteArray.toList.loop, if_pos hi, ih (i + 1) _ (by omega), List.reverse_cons,
        List.append_assoc, List.drop_eq_getElem_cons hi', List.singleton_append]
      congr 2
      exact getElem!_pos b.data i hi
  exact hloop s.toUTF8 _ 0 [] rfl

end Rulebook.Text
