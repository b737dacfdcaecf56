import Mathlib.Data.List.Basic
import SignalLint.Text.Utf8

/-!
# Reading bytes as a text and writing them back

A byte sequence that is read as a text is the encoding of this text and of no other sequence of
bytes: overlong forms, surrogates and values past the last code point are all refused. The main
statement is `encode_of_decode`: a text that `Utf8.decode` reads has exactly the bytes that it was
read from.

* `lead?_eq_some`, `trail_succ_eq_char` — what one byte must be like for the reading to go on, as
  bounds on its number.
* `utf8EncodeChar_one` to `utf8EncodeChar_four` — what the encoder makes of the code point of so many
  bytes.
* `utf8EncodeChar_of_front` — one character: the bytes taken are those of the character.
-/

namespace SignalLint

namespace Utf8

/-- A text is written as as many bytes as its size says. -/
theorem length_encode (text : String) : (encode text).length = text.utf8ByteSize := by
  rw [String.utf8ByteSize, ← String.utf8Encode_toList]
  exact List.size_toByteArray.symm

variable {b low high : UInt8} {rest : Bytes} {c : Char} {n bits width w : Nat}

theorem ofNat_eq_of_eq_toNat (h : n = b.toNat) : UInt8.ofNat n = b := by
  rw [h, UInt8.ofNat_toNat]

/-- A code point that is no surrogate is the number of a character. -/
theorem toNat_val_ofNat (h : n < 0xD800 ∨ 0xDFFF < n ∧ n < 0x110000) :
    (Char.ofNat n).val.toNat = n := by
  rw [Char.ofNat, dif_pos h]
  rfl

/-- The first byte promises so many more by its number; the narrower bounds of the second byte go
with four numbers of the first. -/
theorem lead?_eq_some {lead : Lead} (h : lead? b = some lead) :
    (lead.trailing = 0 ∧ lead.bits = b.toNat ∧ b.toNat < 0x80) ∨
      (lead.trailing = 1 ∧ lead.bits = b.toNat - 0xC0 ∧ 0xC2 ≤ b.toNat ∧ b.toNat < 0xE0 ∧
        lead.low.toNat = 0x80 ∧ lead.high.toNat = 0xBF) ∨
      (lead.trailing = 2 ∧ lead.bits = b.toNat - 0xE0 ∧ 0xE0 ≤ b.toNat ∧ b.toNat < 0xF0 ∧
        lead.low.toNat = (if b.toNat = 0xE0 then 0xA0 else 0x80) ∧
        lead.high.toNat = if b.toNat = 0xED then 0x9F else 0xBF) ∨
      (lead.trailing = 3 ∧ lead.bits = b.toNat - 0xF0 ∧ 0xF0 ≤ b.toNat ∧ b.toNat < 0xF5 ∧
        lead.low.toNat = (if b.toNat = 0xF0 then 0x90 else 0x80) ∧
        lead.high.toNat = if b.toNat = 0xF4 then 0x8F else 0xBF) := by
  -- comparisons of bytes are comparisons of their numbers
  have hlt : ∀ x : UInt8, b < x ↔ b.toNat < x.toNat := fun x => UInt8.lt_iff_toNat_lt
  have heq : ∀ x : UInt8, b = x ↔ b.toNat = x.toNat := fun x => UInt8.toNat_inj.symm
  have hite : ∀ (p : Prop) [Decidable p] (x y : UInt8),
      (if p then x else y).toNat = if p then x.toNat else y.toNat := fun p _ x y => by
    split <;> rfl
  simp only [lead?, hlt, heq] at h
  split at h
  · rename_i hb
    cases h
    exact Or.inl ⟨rfl, rfl, hb⟩
  · split at h
    · cases h
    · rename_i hb
      split at h
      · rename_i hb'
        cases h
        exact Or.inr (Or.inl ⟨rfl, rfl, Nat.le_of_not_lt hb, hb', rfl, rfl⟩)
      · rename_i hb
        split at h
        · rename_i hb'
          cases h
          exact Or.inr (Or.inr (Or.inl ⟨rfl, rfl, Nat.le_of_not_lt hb, hb', hite _ _ _, hite _ _ _⟩))
        · rename_i hb
          split at h
          · rename_i hb'
            cases h
            exact Or.inr (Or.inr (Or.inr
              ⟨rfl, rfl, Nat.le_of_not_lt hb, hb', hite _ _ _, hite _ _ _⟩))
          · cases h

/-- A trailing byte lies between its bounds and adds six bits. -/
theorem trail_succ_eq_char (h : trail (n + 1) low high bits width rest = .char c w) :
    ∃ b rest', rest = b :: rest' ∧ low.toNat ≤ b.toNat ∧ b.toNat ≤ high.toNat ∧
      trail n 0x80 0xBF (bits * 64 + (b.toNat - 0x80)) (width + 1) rest' = .char c w := by
  cases rest with
  | nil => cases h
  | cons b rest =>
    rw [trail] at h
    split at h
    · rename_i hb
      exact ⟨b, rest, rfl, UInt8.le_iff_toNat_le.1 hb.1, UInt8.le_iff_toNat_le.1 hb.2, h⟩
    · cases h

theorem trail_zero_eq_char (h : trail 0 low high bits width rest = .char c w) :
    c = Char.ofNat bits ∧ w = width := by
  cases h
  exact ⟨rfl, rfl⟩

section Lengths

variable {b₁ b₂ b₃ : UInt8}

/-! A code point that is put together from the bits of one to four bytes is encoded by these bytes:
its bounds tell the branch of the encoder, and the bits come apart as they were put together. -/

theorem utf8EncodeChar_one (h : b.toNat < 0x80) :
    String.utf8EncodeChar (Char.ofNat b.toNat) = [b] := by
  have hval := toNat_val_ofNat (n := b.toNat) (by omega)
  simp only [String.utf8EncodeChar, hval]
  rw [if_pos (by omega), ofNat_eq_of_eq_toNat rfl]

theorem utf8EncodeChar_two (hn : (b.toNat - 0xC0) * 64 + (b₁.toNat - 0x80) = n)
    (hlo : 0xC2 ≤ b.toNat) (hhi : b.toNat < 0xE0) (h₁ : 0x80 ≤ b₁.toNat ∧ b₁.toNat ≤ 0xBF) :
    String.utf8EncodeChar (Char.ofNat n) = [b, b₁] := by
  have hval := toNat_val_ofNat (n := n) (by omega)
  simp only [String.utf8EncodeChar, hval]
  rw [if_neg (by omega), if_pos (by omega), ofNat_eq_of_eq_toNat (b := b) (by omega),
    ofNat_eq_of_eq_toNat (b := b₁) (by omega)]

theorem utf8EncodeChar_three
    (hn : ((b.toNat - 0xE0) * 64 + (b₁.toNat - 0x80)) * 64 + (b₂.toNat - 0x80) = n)
    (hlo : 0xE0 ≤ b.toNat) (hrange : 0x800 ≤ n ∧ (n < 0xD800 ∨ 0xDFFF < n ∧ n < 0x10000))
    (h₁ : 0x80 ≤ b₁.toNat ∧ b₁.toNat ≤ 0xBF) (h₂ : 0x80 ≤ b₂.toNat ∧ b₂.toNat ≤ 0xBF) :
    String.utf8EncodeChar (Char.ofNat n) = [b, b₁, b₂] := by
  have hval := toNat_val_ofNat (n := n) (by omega)
  simp only [String.utf8EncodeChar, hval]
  rw [if_neg (by omega), if_neg (by omega), if_pos (by omega),
    ofNat_eq_of_eq_toNat (b := b) (by omega), ofNat_eq_of_eq_toNat (b := b₁) (by omega),
    ofNat_eq_of_eq_toNat (b := b₂) (by omega)]

theorem utf8EncodeChar_four
    (hn : (((b.toNat - 0xF0) * 64 + (b₁.toNat - 0x80)) * 64 + (b₂.toNat - 0x80)) * 64 +
      (b₃.toNat - 0x80) = n)
    (hlo : 0xF0 ≤ b.toNat) (hrange : 0x10000 ≤ n ∧ n < 0x110000)
    (h₁ : 0x80 ≤ b₁.toNat ∧ b₁.toNat ≤ 0xBF) (h₂ : 0x80 ≤ b₂.toNat ∧ b₂.toNat ≤ 0xBF)
    (h₃ : 0x80 ≤ b₃.toNat ∧ b₃.toNat ≤ 0xBF) :
    String.utf8EncodeChar (Char.ofNat n) = [b, b₁, b₂, b₃] := by
  have hval := toNat_val_ofNat (n := n) (by omega)
  simp only [String.utf8EncodeChar, hval]
  rw [if_neg (by omega), if_neg (by omega), if_neg (by omega),
    ofNat_eq_of_eq_toNat (b := b) (by omega), ofNat_eq_of_eq_toNat (b := b₁) (by omega),
    ofNat_eq_of_eq_toNat (b := b₂) (by omega), ofNat_eq_of_eq_toNat (b := b₃) (by omega)]

end Lengths

/-- **One character.** The bytes that a character is read from are those that it is written as. -/
theorem utf8EncodeChar_of_front (h : front b rest = .char c w) :
    b :: rest = String.utf8EncodeChar c ++ rest.drop (w - 1) := by
  have h80 : (0x80 : UInt8).toNat = 0x80 := rfl
  have hBF : (0xBF : UInt8).toNat = 0xBF := rfl
  unfold front at h
  split at h
  · cases h
  · rename_i lead hlead
    rcases lead?_eq_some hlead with ⟨htrailing, hbits, hb⟩ | ⟨htrailing, hbits, hlo, hhi, hlow, hhigh⟩ |
      ⟨htrailing, hbits, hlo, hhi, hlow, hhigh⟩ | ⟨htrailing, hbits, hlo, hhi, hlow, hhigh⟩ <;>
      rw [htrailing, hbits] at h
    · obtain ⟨hc, hw⟩ := trail_zero_eq_char h
      rw [hc, hw, utf8EncodeChar_one hb]
      rfl
    · obtain ⟨b₁, rest, rfl, hlow₁, hhigh₁, h⟩ := trail_succ_eq_char h
      obtain ⟨hc, hw⟩ := trail_zero_eq_char h
      rw [hc, hw]
      generalize hn : (b.toNat - 0xC0) * 64 + (b₁.toNat - 0x80) = n
      rw [utf8EncodeChar_two hn hlo hhi (by omega)]
      rfl
    · obtain ⟨b₁, rest, rfl, hlow₁, hhigh₁, h⟩ := trail_succ_eq_char h
      obtain ⟨b₂, rest, rfl, hlow₂, hhigh₂, h⟩ := trail_succ_eq_char h
      obtain ⟨hc, hw⟩ := trail_zero_eq_char h
      rw [hc, hw]
      generalize hn : ((b.toNat - 0xE0) * 64 + (b₁.toNat - 0x80)) * 64 + (b₂.toNat - 0x80) = n
      -- the narrower bounds of the second byte leave out overlong forms and surrogates
      have hwide : 0x80 ≤ b₁.toNat ∧ b₁.toNat ≤ 0xBF := by
        split at hlow <;> split at hhigh <;> omega
      have hrange : 0x800 ≤ n ∧ (n < 0xD800 ∨ 0xDFFF < n ∧ n < 0x10000) := by
        split at hlow <;> split at hhigh <;> omega
      rw [utf8EncodeChar_three hn hlo hrange hwide ⟨hlow₂, hhigh₂⟩]
      rfl
    · obtain ⟨b₁, rest, rfl, hlow₁, hhigh₁, h⟩ := trail_succ_eq_char h
      obtain ⟨b₂, rest, rfl, hlow₂, hhigh₂, h⟩ := trail_succ_eq_char h
      obtain ⟨b₃, rest, rfl, hlow₃, hhigh₃, h⟩ := trail_succ_eq_char h
      obtain ⟨hc, hw⟩ := trail_zero_eq_char h
      rw [hc, hw]
      generalize hn : (((b.toNat - 0xF0) * 64 + (b₁.toNat - 0x80)) * 64 + (b₂.toNat - 0x80)) * 64 +
        (b₃.toNat - 0x80) = n
      have hwide : 0x80 ≤ b₁.toNat ∧ b₁.toNat ≤ 0xBF := by
        split at hlow <;> split at hhigh <;> omega
      have hrange : 0x10000 ≤ n ∧ n < 0x110000 := by
        split at hlow <;> split at hhigh <;> omega
      rw [utf8EncodeChar_four hn hlo hrange hwide ⟨hlow₂, hhigh₂⟩ ⟨hlow₃, hhigh₃⟩]
      rfl

theorem flatMap_utf8EncodeChar_of_decodeFrom {position : Nat} {bytes : Bytes} {cs : List Char}
    (h : decodeFrom position bytes = .ok cs) : cs.flatMap String.utf8EncodeChar = bytes := by
  -- the recursion of the reader is the induction: one character, then what it left
  induction position, bytes using decodeFrom.induct generalizing cs with
  | case1 =>
    rw [decodeFrom] at h
    cases h
    rfl
  | case2 position b rest fault width hfront =>
    rw [decodeFrom] at h
    split at h
    · cases h
    · rename_i heq
      rw [hfront] at heq
      cases heq
  | case3 position b rest c width hfront ih =>
    rw [decodeFrom] at h
    split at h
    · cases h
    · rename_i c' width' heq
      obtain ⟨rfl, rfl⟩ := Front.char.inj (hfront.symm.trans heq)
      cases hrest : decodeFrom (position + width) (rest.drop (width - 1)) with
      | error e =>
        rw [hrest] at h
        cases h
      | ok cs' =>
        rw [hrest] at h
        cases h
        rw [List.flatMap_cons, ih hrest, ← utf8EncodeChar_of_front hfront]

/-- **A text has the bytes that it was read from.** -/
theorem encode_of_decode {bytes : Bytes} {text : String} (h : decode bytes = .ok text) :
    encode text = bytes := by
  unfold decode at h
  cases hcs : decodeFrom 0 bytes with
  | error e =>
    rw [hcs] at h
    cases h
  | ok cs =>
    rw [hcs] at h
    cases h
    rw [encode, String.toList_ofList]
    exact flatMap_utf8EncodeChar_of_decodeFrom hcs

end Utf8

end SignalLint
