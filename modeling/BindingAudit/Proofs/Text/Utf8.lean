import BindingAudit.Text.Utf8
import Mathlib.Data.List.Basic

/-!
# Reading what was encoded

Encoding a text and decoding the bytes gives the text back.  A character takes one to four bytes;
in each case the leading byte promises the continuation bytes that follow, and the decoder collects
from them the bits of the character.
-/

namespace BindingAudit.Text.Utf8

/-! ## Section 1: Steps of the decoder -/

section Steps

variable {position start low high bits : Nat} {first b : UInt8} {rest : List UInt8}

/-- Between characters, a byte that promises nothing is a character. -/
theorem decodeFrom_single (h : b.toNat < 0x80) :
    decodeFrom position start first 0 low high bits (b :: rest) =
      (decodeFrom (position + 1) (position + 1) b 0 0x80 0xBF 0 rest).map
        (Char.ofNat b.toNat :: ·) := by
  have hlead : lead? b = some ⟨0, 0x80, 0xBF⟩ := by
    unfold lead?
    exact if_pos h
  rw [decodeFrom, if_pos rfl, hlead]
  rfl

/-- Between characters, a byte that promises others starts a character. -/
theorem decodeFrom_lead {owed low' high' : Nat} (h : lead? b = some ⟨owed + 1, low', high'⟩) :
    decodeFrom position start first 0 low high bits (b :: rest) =
      decodeFrom (position + 1) position b (owed + 1) low' high' (leadBits b (owed + 1)) rest := by
  rw [decodeFrom, if_pos rfl, h]
  exact if_neg (Nat.succ_ne_zero owed)

/-- The last byte of a character completes it. -/
theorem decodeFrom_last (h : low ≤ b.toNat ∧ b.toNat ≤ high) :
    decodeFrom position start first 1 low high bits (b :: rest) =
      (decodeFrom (position + 1) (position + 1) b 0 0x80 0xBF 0 rest).map
        (Char.ofNat (bits * 0x40 + b.toNat % 0x40) :: ·) := by
  rw [decodeFrom, if_neg (by omega), if_pos h]
  exact if_pos rfl

/-- A byte in the middle of a character adds its bits. -/
theorem decodeFrom_middle {owed : Nat} (h : low ≤ b.toNat ∧ b.toNat ≤ high) :
    decodeFrom position start first (owed + 2) low high bits (b :: rest) =
      decodeFrom (position + 1) start first (owed + 1) 0x80 0xBF (bits * 0x40 + b.toNat % 0x40)
        rest := by
  rw [decodeFrom, if_neg (by omega), if_pos h]
  exact if_neg (by omega)

end Steps

/-! ## Section 2: What leading bytes promise -/

theorem lead?_two {b : UInt8} (h : 0xC2 ≤ b.toNat ∧ b.toNat ≤ 0xDF) :
    lead? b = some ⟨1, 0x80, 0xBF⟩ := by
  unfold lead?
  grind

/-- Of the leading bytes of three, the first excludes what two bytes can hold, and one excludes
surrogates. -/
theorem lead?_three {b : UInt8} (h : 0xE0 ≤ b.toNat ∧ b.toNat ≤ 0xEF) :
    lead? b = some ⟨2, if b.toNat = 0xE0 then 0xA0 else 0x80,
      if b.toNat = 0xED then 0x9F else 0xBF⟩ := by
  unfold lead?
  grind

/-- Of the leading bytes of four, the first excludes what three bytes can hold, and the last what
is beyond all characters. -/
theorem lead?_four {b : UInt8} (h : 0xF0 ≤ b.toNat ∧ b.toNat ≤ 0xF4) :
    lead? b = some ⟨3, if b.toNat = 0xF0 then 0x90 else 0x80,
      if b.toNat = 0xF4 then 0x8F else 0xBF⟩ := by
  unfold lead?
  grind

/-! ## Section 3: One character, and a whole text -/

/-- The code of a character is in range and no surrogate. -/
private theorem toNat_valid (c : Char) :
    c.toNat < 0xD800 ∨ (0xDFFF < c.toNat ∧ c.toNat < 0x110000) :=
  c.valid

private theorem toNat_ofNat {n : Nat} (h : n < 256) : (UInt8.ofNat n).toNat = n :=
  UInt8.toNat_ofNat_of_lt' h

/-- **One character**: the bytes of a character are decoded to it, whatever follows. -/
theorem decodeFrom_encodeChar (c : Char) (position start low high bits : Nat) (first : UInt8)
    (rest : List UInt8) :
    ∃ position' first', decodeFrom position start first 0 low high bits
        (String.utf8EncodeChar c ++ rest) =
      (decodeFrom position' position' first' 0 0x80 0xBF 0 rest).map (c :: ·) := by
  have hvalid := toNat_valid c
  have hchar : ∀ n, n = c.toNat → Char.ofNat n = c := by
    rintro n rfl
    exact Char.ofNat_toNat c
  unfold String.utf8EncodeChar
  simp only [show c.val.toNat = c.toNat from rfl]
  generalize c.toNat = v at *
  split
  case isTrue =>
    -- one byte, the character itself
    have h₁ := toNat_ofNat (n := v) (by omega)
    refine ⟨position + 1, UInt8.ofNat v, ?_⟩
    rw [List.singleton_append, decodeFrom_single (by omega), hchar _ (by omega)]
  split
  case isTrue =>
    have h₁ := toNat_ofNat (n := v / 64 % 32 + 192) (by omega)
    have h₂ := toNat_ofNat (n := v % 64 + 128) (by omega)
    refine ⟨position + 1 + 1, UInt8.ofNat (v % 64 + 128), ?_⟩
    rw [List.cons_append, decodeFrom_lead (lead?_two (by omega)), List.singleton_append,
      decodeFrom_last (by omega), hchar]
    simp only [leadBits, h₁, h₂]
    omega
  split
  case isTrue =>
    have h₁ := toNat_ofNat (n := v / 4096 % 16 + 224) (by omega)
    have h₂ := toNat_ofNat (n := v / 64 % 64 + 128) (by omega)
    have h₃ := toNat_ofNat (n := v % 64 + 128) (by omega)
    refine ⟨position + 1 + 1 + 1, UInt8.ofNat (v % 64 + 128), ?_⟩
    -- the second byte is in the range left by the first, as the character is none of two bytes
    -- and no surrogate
    rw [List.cons_append, decodeFrom_lead (lead?_three (by omega)), List.cons_append,
      decodeFrom_middle (by rw [h₁, h₂]; split <;> split <;> omega), List.singleton_append,
      decodeFrom_last (by omega), hchar]
    simp only [leadBits, h₁, h₂, h₃]
    omega
  case isFalse =>
    have h₁ := toNat_ofNat (n := v / 262144 % 8 + 240) (by omega)
    have h₂ := toNat_ofNat (n := v / 4096 % 64 + 128) (by omega)
    have h₃ := toNat_ofNat (n := v / 64 % 64 + 128) (by omega)
    have h₄ := toNat_ofNat (n := v % 64 + 128) (by omega)
    refine ⟨position + 1 + 1 + 1 + 1, UInt8.ofNat (v % 64 + 128), ?_⟩
    rw [List.cons_append, decodeFrom_lead (lead?_four (by omega)), List.cons_append,
      decodeFrom_middle (by rw [h₁, h₂]; split <;> split <;> omega), List.cons_append,
      decodeFrom_middle (by omega), List.singleton_append, decodeFrom_last (by omega), hchar]
    simp only [leadBits, h₁, h₂, h₃, h₄]
    omega

/-- **Decoding an encoded text gives it back.** -/
theorem decode_encode (cs : List Char) : decode (encode cs) = .ok cs := by
  have hfrom : ∀ position first,
      decodeFrom position position first 0 0x80 0xBF 0 (encode cs) = .ok cs := by
    induction cs with
    | nil => exact fun _ _ => rfl
    | cons c cs ih =>
      intro position first
      obtain ⟨position', first', hc⟩ :=
        decodeFrom_encodeChar c position position 0x80 0xBF 0 first (encode cs)
      rw [encode, List.flatMap_cons, ← encode, hc, ih]
      rfl
  exact hfrom 0 0

end BindingAudit.Text.Utf8
