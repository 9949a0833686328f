import BuildQueue.Text.Utf8

/-!
# Reading back the UTF-8 form of a text

`decode_encode`: the bytes of a text read as that text. The value of a first byte fixes the width of
its character (`width_ofNat`); the bytes after it carry six bits of the character each (`tail`).
Nothing else is read as that text (`encode_of_decode`): overlong forms and surrogates are refused.
-/

namespace BuildQueue.Text.Utf8

theorem toNat_ofNat {n : Nat} (h : n < 256) : (UInt8.ofNat n).toNat = n := by
  rw [UInt8.toNat_ofNat', Nat.mod_eq_of_lt (by simpa using h)]

theorem ofNat_eq_iff {n : Nat} (h : n < 256) (b : UInt8) : UInt8.ofNat n = b ↔ n = b.toNat := by
  rw [← UInt8.toNat_inj, toNat_ofNat h]

/-! ## One character, by its width -/

section Width

variable {start : Nat} {b0 b1 b2 b3 : UInt8} {t : List UInt8}

theorem decodeFrom_one (h : width b0 = 1) :
    decodeFrom start (b0 :: t) = (decodeFrom (start + 1) t).map (Char.ofNat b0.toNat :: ·) := by
  rw [decodeFrom.eq_def]
  simp only [h]

theorem decodeFrom_two (h : width b0 = 2) (h1 : isContinuation b1 = true) :
    decodeFrom start (b0 :: b1 :: t) =
      (decodeFrom (start + 2) t).map (Char.ofNat (b0.toNat % 32 * 64 + payload b1) :: ·) := by
  rw [decodeFrom.eq_def]
  simp only [h, h1, if_true]

theorem decodeFrom_three (h : width b0 = 3) (h1 : isSecond b0 b1 = true)
    (h2 : isContinuation b2 = true) :
    decodeFrom start (b0 :: b1 :: b2 :: t) =
      (decodeFrom (start + 3) t).map
        (Char.ofNat (b0.toNat % 16 * 4096 + payload b1 * 64 + payload b2) :: ·) := by
  rw [decodeFrom.eq_def]
  simp only [h, h1, h2, if_true]

theorem decodeFrom_four (h : width b0 = 4) (h1 : isSecond b0 b1 = true)
    (h2 : isContinuation b2 = true) (h3 : isContinuation b3 = true) :
    decodeFrom start (b0 :: b1 :: b2 :: b3 :: t) =
      (decodeFrom (start + 4) t).map
        (Char.ofNat (b0.toNat % 8 * 262144 + payload b1 * 4096 + payload b2 * 64 +
          payload b3) :: ·) := by
  rw [decodeFrom.eq_def]
  simp only [h, h1, h2, h3, if_true]

end Width

/-- The width that the value of a first byte stands for. -/
theorem width_ofNat {n : Nat} (h : n < 256) :
    width (UInt8.ofNat n) =
      if n < 0x80 then 1 else if n < 0xC2 then 0 else if n < 0xE0 then 2
      else if n < 0xF0 then 3 else if n < 0xF5 then 4 else 0 := by
  simp only [width, UInt8.lt_iff_toNat_lt, toNat_ofNat h]
  rfl

/-! ## The bytes behind the first -/

/-- The byte that carries the low six bits of `n`. -/
def tail (n : Nat) : UInt8 := UInt8.ofNat (n % 64 + 128)

theorem toNat_tail (n : Nat) : (tail n).toNat = n % 64 + 128 := toNat_ofNat (by omega)

theorem isContinuation_tail (n : Nat) : isContinuation (tail n) = true := by
  simp only [isContinuation, UInt8.le_iff_toNat_le, toNat_tail, Bool.and_eq_true,
    decide_eq_true_eq, UInt8.reduceToNat]
  omega

theorem payload_tail (n : Nat) : payload (tail n) = n % 64 := by
  rw [payload, toNat_tail]; omega

/-- The two values that may not start a character of three bytes are the overlong ones and the
surrogates; a character is neither. -/
theorem isSecond_three {v : Nat} (hlo : 0x7FF < v) (hhi : v ≤ 0xFFFF)
    (hv : v < 0xD800 ∨ 0xDFFF < v) :
    isSecond (UInt8.ofNat (v / 4096 % 16 + 224)) (tail (v / 64)) = true := by
  have hb : v / 4096 % 16 + 224 < 256 := by omega
  have hc := isContinuation_tail (v / 64)
  simp only [isSecond, ofNat_eq_iff hb, UInt8.le_iff_toNat_le, toNat_tail, hc, UInt8.reduceToNat]
  by_cases h0 : v / 4096 % 16 + 224 = 224
  · rw [if_pos h0]
    simp only [Bool.and_eq_true, decide_eq_true_eq]; omega
  · rw [if_neg h0]
    by_cases h1 : v / 4096 % 16 + 224 = 237
    · rw [if_pos h1]
      simp only [Bool.and_eq_true, decide_eq_true_eq]; omega
    · rw [if_neg h1, if_neg (by omega), if_neg (by omega)]

/-- A character of four bytes is neither overlong nor past the last code point. -/
theorem isSecond_four {v : Nat} (hlo : 0xFFFF < v) (hhi : v < 0x110000) :
    isSecond (UInt8.ofNat (v / 262144 % 8 + 240)) (tail (v / 4096)) = true := by
  have hb : v / 262144 % 8 + 240 < 256 := by omega
  have hc := isContinuation_tail (v / 4096)
  simp only [isSecond, ofNat_eq_iff hb, UInt8.le_iff_toNat_le, toNat_tail, hc, UInt8.reduceToNat]
  rw [if_neg (by omega), if_neg (by omega)]
  by_cases h0 : v / 262144 % 8 + 240 = 240
  · rw [if_pos h0]
    simp only [Bool.and_eq_true, decide_eq_true_eq]; omega
  · rw [if_neg h0]
    by_cases h1 : v / 262144 % 8 + 240 = 244
    · rw [if_pos h1]
      simp only [Bool.and_eq_true, decide_eq_true_eq]; omega
    · rw [if_neg h1]

/-! ## Whole texts -/

/-- Reading one character takes its bytes off and goes on behind them. -/
theorem decodeFrom_utf8EncodeChar (start : Nat) (c : Char) (rest : List UInt8) :
    ∃ next, decodeFrom start (String.utf8EncodeChar c ++ rest) =
      (decodeFrom next rest).map (c :: ·) := by
  have hv := c.valid
  simp only [UInt32.isValidChar, Nat.isValidChar] at hv
  have hc : Char.ofNat c.val.toNat = c := Char.ofNat_toNat c
  simp only [String.utf8EncodeChar]
  generalize c.val.toNat = v at hv hc
  by_cases h1 : v ≤ 0x7F
  · have hb : v < 256 := by omega
    have hw : width (UInt8.ofNat v) = 1 := by rw [width_ofNat hb, if_pos (by omega)]
    refine ⟨start + 1, ?_⟩
    rw [if_pos h1, List.cons_append, List.nil_append, decodeFrom_one hw, toNat_ofNat hb, hc]
  rw [if_neg h1]
  by_cases h2 : v ≤ 0x7FF
  · have hb : v / 64 % 32 + 192 < 256 := by omega
    have hw : width (UInt8.ofNat (v / 64 % 32 + 192)) = 2 := by
      rw [width_ofNat hb, if_neg (by omega), if_neg (by omega), if_pos (by omega)]
    have he : (v / 64 % 32 + 192) % 32 * 64 + v % 64 = v := by omega
    refine ⟨start + 2, ?_⟩
    rw [if_pos h2]
    change decodeFrom start (_ :: tail v :: rest) = _
    rw [decodeFrom_two hw (isContinuation_tail v), payload_tail, toNat_ofNat hb, he, hc]
  rw [if_neg h2]
  by_cases h3 : v ≤ 0xFFFF
  · have hb : v / 4096 % 16 + 224 < 256 := by omega
    have hw : width (UInt8.ofNat (v / 4096 % 16 + 224)) = 3 := by
      rw [width_ofNat hb, if_neg (by omega), if_neg (by omega), if_neg (by omega),
        if_pos (by omega)]
    have he : (v / 4096 % 16 + 224) % 16 * 4096 + v / 64 % 64 * 64 + v % 64 = v := by omega
    refine ⟨start + 3, ?_⟩
    rw [if_pos h3]
    change decodeFrom start (_ :: tail (v / 64) :: tail v :: rest) = _
    rw [decodeFrom_three hw (isSecond_three (by omega) h3 (by omega)) (isContinuation_tail v),
      payload_tail, payload_tail, toNat_ofNat hb, he, hc]
  · have hb : v / 262144 % 8 + 240 < 256 := by omega
    have hw : width (UInt8.ofNat (v / 262144 % 8 + 240)) = 4 := by
      rw [width_ofNat hb, if_neg (by omega), if_neg (by omega), if_neg (by omega),
        if_neg (by omega), if_pos (by omega)]
    have he : (v / 262144 % 8 + 240) % 8 * 262144 + v / 4096 % 64 * 4096 + v / 64 % 64 * 64 +
        v % 64 = v := by omega
    refine ⟨start + 4, ?_⟩
    rw [if_neg h3]
    change decodeFrom start (_ :: tail (v / 4096) :: tail (v / 64) :: tail v :: rest) = _
    rw [decodeFrom_four hw (isSecond_four (by omega) (by omega)) (isContinuation_tail _)
      (isContinuation_tail v), payload_tail, payload_tail, payload_tail, toNat_ofNat hb, he, hc]

theorem decodeFrom_encode (start : Nat) (s : List Char) : decodeFrom start (encode s) = .ok s := by
  induction s generalizing start with
  | nil => rfl
  | cons c s ih =>
    obtain ⟨next, h⟩ := decodeFrom_utf8EncodeChar start c (encode s)
    rw [encode, List.flatMap_cons, ← encode, h, ih]
    rfl

/-- The bytes of a text are read as that text. -/
theorem decode_encode (s : List Char) : decode (encode s) = .ok s := decodeFrom_encode 0 s

/-! ## Reading is exact -/

theorem toNat_charOfNat {v : Nat} (h : v.isValidChar) : (Char.ofNat v).toNat = v := by
  rw [Char.ofNat, dif_pos h]
  rfl

/-- The bytes of the character that a number stands for. -/
theorem utf8EncodeChar_ofNat {v : Nat} (h : v.isValidChar) : String.utf8EncodeChar (Char.ofNat v) =
    if v ≤ 0x7F then [UInt8.ofNat v]
    else if v ≤ 0x7FF then [UInt8.ofNat (v / 64 % 32 + 192), tail v]
    else if v ≤ 0xFFFF then [UInt8.ofNat (v / 4096 % 16 + 224), tail (v / 64), tail v]
    else [UInt8.ofNat (v / 262144 % 8 + 240), tail (v / 4096), tail (v / 64), tail v] := by
  have hv : (Char.ofNat v).val.toNat = v := toNat_charOfNat h
  rw [String.utf8EncodeChar, hv]
  rfl

theorem ofNat_eq {n : Nat} {b : UInt8} (h : n = b.toNat) : UInt8.ofNat n = b := by
  rw [h, UInt8.ofNat_toNat]

theorem isContinuation_iff {b : UInt8} :
    isContinuation b = true ↔ 0x80 ≤ b.toNat ∧ b.toNat ≤ 0xBF := by
  simp [isContinuation, UInt8.le_iff_toNat_le]

/-- A continuation byte is the one that carries its payload. -/
theorem tail_eq {n : Nat} {b : UInt8} (hb : isContinuation b = true) (hn : n % 64 = payload b) :
    tail n = b := by
  rw [isContinuation_iff] at hb
  refine ofNat_eq ?_
  rw [hn, payload]
  omega

/-- What the byte after the first may be. -/
theorem isSecond_iff {b second : UInt8} : isSecond b second = true ↔
    (0x80 ≤ second.toNat ∧ second.toNat ≤ 0xBF) ∧ (b.toNat = 0xE0 → 0xA0 ≤ second.toNat) ∧
      (b.toNat = 0xED → second.toNat ≤ 0x9F) ∧ (b.toNat = 0xF0 → 0x90 ≤ second.toNat) ∧
      (b.toNat = 0xF4 → second.toNat ≤ 0x8F) := by
  simp only [isSecond, isContinuation, ← UInt8.toNat_inj, UInt8.le_iff_toNat_le, UInt8.reduceToNat]
  grind

section Exact

variable {b0 b1 b2 b3 : UInt8}

theorem width_eq (b : UInt8) : width b =
    if b.toNat < 0x80 then 1 else if b.toNat < 0xC2 then 0 else if b.toNat < 0xE0 then 2
    else if b.toNat < 0xF0 then 3 else if b.toNat < 0xF5 then 4 else 0 := by
  rw [← width_ofNat b.toNat_lt, UInt8.ofNat_toNat]

theorem encode_one (h : width b0 = 1) :
    String.utf8EncodeChar (Char.ofNat b0.toNat) = [b0] := by
  have hb : b0.toNat < 0x80 := by
    rw [width_eq] at h
    grind
  have hv : b0.toNat.isValidChar := .inl (by omega)
  rw [utf8EncodeChar_ofNat hv, if_pos (by omega), UInt8.ofNat_toNat]

theorem encode_two (h : width b0 = 2) (h1 : isContinuation b1 = true) :
    String.utf8EncodeChar (Char.ofNat (b0.toNat % 32 * 64 + payload b1)) = [b0, b1] := by
  have hb : 0xC2 ≤ b0.toNat ∧ b0.toNat < 0xE0 := by
    rw [width_eq] at h
    grind
  have hp : payload b1 < 64 := Nat.mod_lt _ (by decide)
  generalize hv : b0.toNat % 32 * 64 + payload b1 = v
  rw [utf8EncodeChar_ofNat (.inl (by omega)), if_neg (by omega), if_pos (by omega),
    ofNat_eq (b := b0) (by omega), tail_eq h1 (by omega)]

theorem encode_three (h : width b0 = 3) (h1 : isSecond b0 b1 = true)
    (h2 : isContinuation b2 = true) :
    String.utf8EncodeChar
      (Char.ofNat (b0.toNat % 16 * 4096 + payload b1 * 64 + payload b2)) = [b0, b1, b2] := by
  have hb : 0xE0 ≤ b0.toNat ∧ b0.toNat < 0xF0 := by
    rw [width_eq] at h
    grind
  obtain ⟨hc, he0, hed, -⟩ := isSecond_iff.1 h1
  have hp1 : payload b1 = b1.toNat % 64 := rfl
  have hp2 : payload b2 < 64 := Nat.mod_lt _ (by decide)
  generalize hv : b0.toNat % 16 * 4096 + payload b1 * 64 + payload b2 = v
  have hvalid : v.isValidChar := by
    unfold Nat.isValidChar
    omega
  rw [utf8EncodeChar_ofNat hvalid, if_neg (by omega), if_neg (by omega), if_pos (by omega),
    ofNat_eq (b := b0) (by omega), tail_eq (isContinuation_iff.2 hc) (by omega),
    tail_eq h2 (by omega)]

theorem encode_four (h : width b0 = 4) (h1 : isSecond b0 b1 = true)
    (h2 : isContinuation b2 = true) (h3 : isContinuation b3 = true) :
    String.utf8EncodeChar
      (Char.ofNat (b0.toNat % 8 * 262144 + payload b1 * 4096 + payload b2 * 64 + payload b3)) =
        [b0, b1, b2, b3] := by
  have hb : 0xF0 ≤ b0.toNat ∧ b0.toNat < 0xF5 := by
    rw [width_eq] at h
    grind
  obtain ⟨hc, -, -, hf0, hf4⟩ := isSecond_iff.1 h1
  have hp1 : payload b1 = b1.toNat % 64 := rfl
  have hp2 : payload b2 < 64 := Nat.mod_lt _ (by decide)
  have hp3 : payload b3 < 64 := Nat.mod_lt _ (by decide)
  generalize hv : b0.toNat % 8 * 262144 + payload b1 * 4096 + payload b2 * 64 + payload b3 = v
  have hvalid : v.isValidChar := by
    unfold Nat.isValidChar
    omega
  rw [utf8EncodeChar_ofNat hvalid, if_neg (by omega), if_neg (by omega), if_neg (by omega),
    ofNat_eq (b := b0) (by omega), tail_eq (isContinuation_iff.2 hc) (by omega),
    tail_eq h2 (by omega), tail_eq h3 (by omega)]

end Exact

theorem exists_of_map_eq_ok {f : List Char → List Char} {r : Except Fault (List Char)}
    {s : List Char} (h : r.map f = .ok s) : ∃ t, r = .ok t ∧ s = f t := by
  cases r with
  | error e => cases h
  | ok t => exact ⟨t, rfl, (Except.ok.inj h).symm⟩

theorem encode_of_decodeFrom (start : Nat) (bytes : List UInt8) (s : List Char)
    (h : decodeFrom start bytes = .ok s) : encode s = bytes := by
  fun_induction decodeFrom start bytes generalizing s with
  | case1 => cases h; rfl
  | case2 start b0 t0 hw ih =>
    obtain ⟨t, ht, rfl⟩ := exists_of_map_eq_ok h
    rw [encode, List.flatMap_cons, encode_one hw, ← encode, ih t ht]
    rfl
  | case4 start b0 hw b1 t1 h1 ih =>
    obtain ⟨t, ht, rfl⟩ := exists_of_map_eq_ok h
    rw [encode, List.flatMap_cons, encode_two hw h1, ← encode, ih t ht]
    rfl
  | case8 start b0 hw b1 h1 b2 t2 h2 ih =>
    obtain ⟨t, ht, rfl⟩ := exists_of_map_eq_ok h
    rw [encode, List.flatMap_cons, encode_three hw h1 h2, ← encode, ih t ht]
    rfl
  | case14 start b0 hw b1 h1 b2 h2 b3 t3 h3 ih =>
    obtain ⟨t, ht, rfl⟩ := exists_of_map_eq_ok h
    rw [encode, List.flatMap_cons, encode_four hw h1 h2 h3, ← encode, ih t ht]
    rfl
  | _ => cases h

/-- Bytes that are read as a text are the text's bytes. -/
theorem encode_of_decode {bytes : List UInt8} {s : List Char} (h : decode bytes = .ok s) :
    encode s = bytes :=
  encode_of_decodeFrom 0 bytes s h

end BuildQueue.Text.Utf8
