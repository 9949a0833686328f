import BuildQueue.Proofs.Text.Utf8
import Mathlib.Data.String.Basic

/-!
# The order of texts is that of their bytes

Texts are ordered by their characters. In UTF-8 a greater character has greater bytes at the first
place where the two forms differ, so the same order comes out byte by byte (`encode_lt_encode`).
-/

namespace BuildQueue.Text.Utf8

theorem ofNat_lt_ofNat {m n : Nat} (hm : m < 256) (hn : n < 256) :
    UInt8.ofNat m < UInt8.ofNat n ↔ m < n := by
  rw [UInt8.lt_iff_toNat_lt, toNat_ofNat hm, toNat_ofNat hn]

theorem ofNat_inj {m n : Nat} (hm : m < 256) (hn : n < 256) :
    UInt8.ofNat m = UInt8.ofNat n ↔ m = n := by
  rw [← UInt8.toNat_inj, toNat_ofNat hm, toNat_ofNat hn]

/-- The bytes of a character, from the value of the first one on. -/
theorem utf8EncodeChar_eq (c : Char) : String.utf8EncodeChar c =
    if c.toNat ≤ 0x7F then [UInt8.ofNat c.toNat]
    else if c.toNat ≤ 0x7FF then [UInt8.ofNat (c.toNat / 64 % 32 + 192), tail c.toNat]
    else if c.toNat ≤ 0xFFFF then
      [UInt8.ofNat (c.toNat / 4096 % 16 + 224), tail (c.toNat / 64), tail c.toNat]
    else [UInt8.ofNat (c.toNat / 262144 % 8 + 240), tail (c.toNat / 4096), tail (c.toNat / 64),
      tail c.toNat] := by
  rw [String.utf8EncodeChar]
  rfl

/-- A smaller character comes first, whatever stands behind the two. -/
theorem utf8EncodeChar_append_lt {c d : Char} (h : c < d) (s t : List UInt8) :
    String.utf8EncodeChar c ++ s < String.utf8EncodeChar d ++ t := by
  have hlt : c.toNat < d.toNat := h
  have hd : d.toNat < 0x110000 := by
    have hv := d.valid
    simp only [UInt32.isValidChar, Nat.isValidChar] at hv
    change d.toNat < _ ∨ _ < d.toNat ∧ d.toNat < _ at hv
    omega
  -- The bytes carry the digits of the character to the base 64.
  have hdigits : ∀ k < 0x110000, k / 64 / 64 = k / 4096 ∧ k / 4096 / 64 = k / 262144 ∧
      k / 262144 / 8 = 0 := fun k hk => by omega
  have hm := hdigits c.toNat (by omega)
  have hn := hdigits d.toNat hd
  rw [utf8EncodeChar_eq, utf8EncodeChar_eq]
  generalize c.toNat = m at hlt hm
  generalize d.toNat = n at hlt hd hn
  split_ifs
  all_goals
    simp (disch := omega) only [List.cons_append, List.nil_append, List.cons_lt_cons_iff, tail,
      ofNat_lt_ofNat, ofNat_inj]
    omega

theorem encode_cons (c : Char) (s : List Char) :
    encode (c :: s) = String.utf8EncodeChar c ++ encode s := List.flatMap_cons

theorem encode_lt_of_lt {s t : List Char} (h : s < t) : encode s < encode t := by
  induction h with
  | @nil d t =>
    obtain ⟨b, rest, hb⟩ := @List.exists_cons_of_ne_nil _ (String.utf8EncodeChar d)
      String.utf8EncodeChar_ne_nil
    rw [encode_cons, hb]
    exact List.nil_lt_cons b _
  | @rel c s d t hcd =>
    rw [encode_cons, encode_cons]
    exact utf8EncodeChar_append_lt hcd _ _
  | @cons c s t _ ih =>
    rw [encode_cons, encode_cons]
    exact List.append_left_lt ih

/-- Bytes are in the order of the texts that they stand for. -/
theorem encode_lt_encode {s t : List Char} : encode s < encode t ↔ s < t := by
  refine ⟨fun h => ?_, encode_lt_of_lt⟩
  rcases lt_trichotomy s t with hlt | rfl | hgt
  · exact hlt
  · exact absurd h (List.lt_irrefl _)
  · exact absurd h (List.lt_asymm (encode_lt_of_lt hgt))

end BuildQueue.Text.Utf8
