import BuildQueue.Proofs.Text.Utf8
import BuildQueue.Text.Percent

/-!
# Reading back a percent form

`decode_encode`: every text is read back from its percent form. `plain_of_mem_encode`: the form is
made of unreserved characters, `%` and uppercase digits, so it holds no separator. A text has many
forms; `encode_eq_iff` says which of them `encode` writes.
-/

namespace BuildQueue.Text.Percent

/-! ## The bytes of a percent form -/

theorem bytesOf_encodeByte (b : UInt8) (rest : List Char) :
    bytesOf (encodeByte b ++ rest) = b :: bytesOf rest := by
  have hb := b.toNat_lt
  simp only [encodeByte, List.cons_append, List.nil_append, bytesOf, Hex.digit?_upper]
  congr 1
  rw [← UInt8.toNat_inj, UInt8.toNat_ofNat', Nat.mod_eq_of_lt] <;> simp only [Hex.ofByte] <;> omega

theorem bytesOf_flatMap_encodeByte (bs : List UInt8) (rest : List Char) :
    bytesOf (bs.flatMap encodeByte ++ rest) = bs ++ bytesOf rest := by
  induction bs with
  | nil => rfl
  | cons b bs ih =>
    rw [List.flatMap_cons, List.append_assoc, bytesOf_encodeByte, ih, List.cons_append]

theorem bytesOf_cons {c : Char} (h : c ≠ '%') (rest : List Char) :
    bytesOf (c :: rest) = String.utf8EncodeChar c ++ bytesOf rest := by
  rw [bytesOf.eq_def]
  split
  · next heq => cases heq
  · next heq => exact absurd (List.cons.inj heq).1 h
  · next heq => obtain ⟨rfl, rfl⟩ := List.cons.inj heq; rfl

theorem isUnreserved_percent : isUnreserved '%' = false := by decide

theorem bytesOf_encodeChar (c : Char) (rest : List Char) :
    bytesOf (encodeChar c ++ rest) = String.utf8EncodeChar c ++ bytesOf rest := by
  unfold encodeChar
  split
  · next h =>
    have hc : c ≠ '%' := by
      intro e
      rw [e, isUnreserved_percent] at h
      cases h
    exact bytesOf_cons hc rest
  · exact bytesOf_flatMap_encodeByte _ rest

theorem bytesOf_flatMap_encodeChar (s : List Char) :
    bytesOf (s.flatMap encodeChar) = Utf8.encode s := by
  induction s with
  | nil => rfl
  | cons c s ih =>
    rw [List.flatMap_cons, bytesOf_encodeChar, ih]
    rfl

/-- Every text is read back from its percent form. -/
theorem decode_encode (s : String) : decode (encode s) = .ok s := by
  rw [decode, encode, String.toList_ofList, bytesOf_flatMap_encodeChar, Utf8.decode_encode]
  simp [Except.map]

theorem encode_inj {s t : String} : encode s = encode t ↔ s = t := by
  refine ⟨fun h => ?_, congrArg encode⟩
  have hs := decode_encode s
  rw [h, decode_encode] at hs
  exact (Except.ok.inj hs).symm

/-! ## The characters of a percent form -/

/-- A character that may stand in a percent form. -/
def Plain (c : Char) : Prop := isUnreserved c = true ∨ c = '%' ∨ ∃ d, c = Hex.upper d

theorem plain_of_mem_encodeByte {b : UInt8} {c : Char} (h : c ∈ encodeByte b) : Plain c := by
  simp only [encodeByte, List.mem_cons, List.not_mem_nil, or_false] at h
  rcases h with h | h | h
  · exact .inr (.inl h)
  · exact .inr (.inr ⟨_, h⟩)
  · exact .inr (.inr ⟨_, h⟩)

theorem plain_of_mem_encode {s : String} {c : Char} (h : c ∈ (encode s).toList) : Plain c := by
  rw [encode, String.toList_ofList] at h
  obtain ⟨d, -, hd⟩ := List.mem_flatMap.1 h
  unfold encodeChar at hd
  split at hd
  · next hu => rw [List.mem_singleton.1 hd]; exact .inl hu
  · obtain ⟨b, -, hb⟩ := List.mem_flatMap.1 hd
    exact plain_of_mem_encodeByte hb

theorem upper_ne_colon (d : Fin 16) : Hex.upper d ≠ ':' := by revert d; decide

theorem not_plain_colon : ¬ Plain ':' := by
  rintro (h | h | ⟨d, h⟩)
  · revert h; decide
  · revert h; decide
  · exact upper_ne_colon d h.symm

theorem colon_not_mem_encode (s : String) : ':' ∉ (encode s).toList := fun h =>
  not_plain_colon (plain_of_mem_encode h)

/-! ## The canonical form -/

/-- A percent form with the unreserved characters plain and every other byte as `%XX`. -/
inductive Canonical : List Char → Prop
  | nil : Canonical []
  | plain {c : Char} {rest : List Char} (hc : isUnreserved c = true) (h : Canonical rest) :
      Canonical (c :: rest)
  | escaped {b : UInt8} {rest : List Char} (hb : isUnreserved (Char.ofNat b.toNat) = false)
      (h : Canonical rest) : Canonical (encodeByte b ++ rest)

/-- The canonical form of one byte. -/
def written (b : UInt8) : List Char :=
  if isUnreserved (Char.ofNat b.toNat) then [Char.ofNat b.toNat] else encodeByte b

/-- Letters and digits are among the first 128 characters. -/
theorem toNat_lt_of_isAlphanum {c : Char} (h : c.isAlphanum = true) : c.toNat < 0x80 := by
  have hle : ∀ last : Char, c.val ≤ last.val → last.toNat < 0x80 → c.toNat < 0x80 :=
    fun last hc hl => Nat.lt_of_le_of_lt (UInt32.le_iff_toNat_le.1 hc) hl
  obtain hletter | hdigit := Bool.or_eq_true_iff.1 h
  · obtain hupper | hlower := Bool.or_eq_true_iff.1 hletter
    · exact hle 'Z' (of_decide_eq_true hupper).2 (by decide)
    · exact hle 'z' (of_decide_eq_true (Bool.and_eq_true_iff.1 hlower).2) (by decide)
  · exact hle '9' (of_decide_eq_true (Bool.and_eq_true_iff.1 hdigit).2) (by decide)

theorem toNat_lt_of_isUnreserved {c : Char} (h : isUnreserved c = true) : c.toNat < 0x80 := by
  simp only [isUnreserved, Bool.or_eq_true, decide_eq_true_eq] at h
  rcases h with (((h | rfl) | rfl) | rfl) | rfl
  · exact toNat_lt_of_isAlphanum h
  all_goals decide

theorem utf8EncodeChar_of_lt {c : Char} (h : c.toNat < 0x80) :
    String.utf8EncodeChar c = [UInt8.ofNat c.toNat] ∧ (UInt8.ofNat c.toNat).toNat = c.toNat := by
  refine ⟨?_, Utf8.toNat_ofNat (by omega)⟩
  have hc : c.val.toNat ≤ 0x7F := Nat.le_of_lt_succ h
  rw [String.utf8EncodeChar, if_pos hc]
  rfl

/-- The bytes of a character past the first 128 are no characters of those. -/
theorem le_toNat_of_mem_utf8EncodeChar {c : Char} (h : ¬ c.toNat < 0x80) :
    ∀ b ∈ String.utf8EncodeChar c, 0x80 ≤ b.toNat := by
  intro b hb
  have hc : ¬ c.val.toNat ≤ 0x7F := fun hle => h (Nat.lt_succ_of_le hle)
  simp only [String.utf8EncodeChar, if_neg hc] at hb
  split at hb
  · simp only [List.mem_cons, List.not_mem_nil, or_false] at hb
    rcases hb with rfl | rfl <;> rw [Utf8.toNat_ofNat] <;> omega
  · split at hb
    · simp only [List.mem_cons, List.not_mem_nil, or_false] at hb
      rcases hb with rfl | rfl | rfl <;> rw [Utf8.toNat_ofNat] <;> omega
    · simp only [List.mem_cons, List.not_mem_nil, or_false] at hb
      rcases hb with rfl | rfl | rfl | rfl <;> rw [Utf8.toNat_ofNat] <;> omega

/-- A character is written byte by byte. -/
theorem encodeChar_eq (c : Char) : encodeChar c = (String.utf8EncodeChar c).flatMap written := by
  by_cases hlt : c.toNat < 0x80
  · obtain ⟨hb, hn⟩ := utf8EncodeChar_of_lt hlt
    rw [encodeChar, hb, List.flatMap_singleton, List.flatMap_singleton, written, hn,
      Char.ofNat_toNat]
  · have hbytes := le_toNat_of_mem_utf8EncodeChar hlt
    rw [encodeChar, if_neg fun hu => hlt (toNat_lt_of_isUnreserved hu)]
    rw [List.flatMap_def, List.flatMap_def]
    congr 1
    refine List.map_congr_left fun b hb => ?_
    have hv : b.toNat.isValidChar := .inl (Nat.lt_trans b.toNat_lt (by decide))
    rw [written, if_neg]
    intro hu
    have hlow := toNat_lt_of_isUnreserved hu
    rw [Utf8.toNat_charOfNat hv] at hlow
    exact Nat.not_lt.2 (hbytes b hb) hlow

theorem encode_eq (s : String) :
    encode s = String.ofList ((Utf8.encode s.toList).flatMap written) := by
  rw [encode, Utf8.encode, List.flatMap_assoc, funext encodeChar_eq]

theorem canonical_flatMap_written (bytes : List UInt8) : Canonical (bytes.flatMap written) := by
  induction bytes with
  | nil => exact .nil
  | cons b bytes ih =>
    rw [List.flatMap_cons, written]
    split
    · next hb => exact .plain hb ih
    · next hb => exact .escaped (Bool.eq_false_iff.2 hb) ih

/-- A canonical form is the one that is written for the bytes it stands for. -/
theorem flatMap_written_bytesOf {form : List Char} (h : Canonical form) :
    (bytesOf form).flatMap written = form := by
  induction h with
  | nil => rfl
  | @plain c rest hc _ ih =>
    have hne : c ≠ '%' := by
      rintro rfl
      rw [isUnreserved_percent] at hc
      cases hc
    rw [bytesOf_cons hne, List.flatMap_append, ih, ← encodeChar_eq, encodeChar, if_pos hc]
    rfl
  | @escaped b rest hb _ ih =>
    rw [bytesOf_encodeByte, List.flatMap_cons, ih, written, if_neg (Bool.eq_false_iff.1 hb)]

/-- What is read as a text stands for the bytes of that text. -/
theorem bytesOf_of_decode {form s : String} (h : decode form = .ok s) :
    Utf8.encode s.toList = bytesOf form.toList := by
  rw [decode] at h
  cases hd : Utf8.decode (bytesOf form.toList) with
  | error fault => rw [hd] at h; cases h
  | ok chars =>
    rw [hd] at h
    obtain rfl := Except.ok.inj h
    rw [String.toList_ofList, Utf8.encode_of_decode hd]

/-- Of the forms that are read as a text, the canonical one is the text's own. -/
theorem encode_eq_iff {form s : String} (h : decode form = .ok s) :
    encode s = form ↔ Canonical form.toList := by
  have hs := bytesOf_of_decode h
  rw [encode_eq, hs]
  refine ⟨fun he => ?_, fun hc => ?_⟩
  · rw [← he, String.toList_ofList]
    exact canonical_flatMap_written _
  · rw [flatMap_written_bytesOf hc, String.ofList_toList]

end BuildQueue.Text.Percent
