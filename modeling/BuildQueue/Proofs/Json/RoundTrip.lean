import BuildQueue.Json.Parser
import BuildQueue.Proofs.Text.Number
import Mathlib.Data.List.TakeDrop

/-!
# Reading what was written

The text of a value, read again, is the value (`parse?_compact`), if its strings are texts and its
numbers are not zeros written as negatives (`Printable`). Each reader takes from the front of a
text what was written there and leaves the rest (`stringBody_flatMap`, `digits_append`,
`value?_chars`).
-/

namespace BuildQueue.Json

open Text (Decimal.valueOf Decimal.valueOf_digits Decimal.isDigit_of_mem_digits
  Decimal.head?_digits Hex.ofByte Hex.lower)

/-! ## Strings -/

/-- Every control character is read back from its escape. -/
theorem unit?_ofByte : ∀ n < 0x20, unit? '0' '0' (Hex.lower (Hex.ofByte n.toUInt8).1)
    (Hex.lower (Hex.ofByte n.toUInt8).2) = some n := by
  decide

/-- A character is read back from its escape. -/
theorem stringBody_escape (taken : List Unit16) (c : Char) (rest : List Char) :
    stringBody taken (escape c ++ rest) = stringBody (c.toNat :: taken) rest := by
  unfold escape
  -- The characters with a letter of their own come first.
  iterate 7
    split
    · subst_vars
      rfl
  split
  · next hcontrol =>
    simp only [List.cons_append, List.nil_append, stringBody, unit?_ofByte _ hcontrol]
  · next hquote hbackslash _ _ _ _ _ hcontrol =>
    rw [List.singleton_append, stringBody, if_neg hcontrol]
    · exact hquote
    · intro a b d e rest h
      exact absurd h hbackslash
    · intro d rest h
      exact absurd h hbackslash

/-- The characters of a text are read back from their escapes, up to the closing quote. -/
theorem stringBody_flatMap (taken : List Unit16) (cs rest : List Char) :
    stringBody taken (cs.flatMap escape ++ '"' :: rest) =
      some ((join? (taken.reverse ++ cs.map Char.toNat)).map String.ofList, rest) := by
  induction cs generalizing taken with
  | nil => simp [stringBody]
  | cons c cs ih =>
    rw [List.flatMap_cons, List.append_assoc, stringBody_escape, ih, List.reverse_cons,
      List.append_assoc]
    rfl

/-- No character is half of a surrogate pair. -/
theorem join?_map_toNat (cs : List Char) : join? (cs.map Char.toNat) = some cs := by
  induction cs with
  | nil => rfl
  | cons c cs ih =>
    have hvalid : c.toNat < 0xD800 ∨ 0xDFFF < c.toNat := c.valid.imp id And.left
    have hhigh : ¬ (0xD800 ≤ c.toNat ∧ c.toNat < 0xDC00) := by omega
    have hlow : ¬ (0xDC00 ≤ c.toNat ∧ c.toNat < 0xE000) := by omega
    rw [List.map_cons, join?.eq_def]
    dsimp only
    rw [if_neg hhigh, if_neg hlow, ih, Option.map_some, Char.ofNat_toNat]

theorem stringBody_quoted (s : String) (rest : List Char) :
    stringBody [] (s.toList.flatMap escape ++ '"' :: rest) = some (some s, rest) := by
  rw [stringBody_flatMap, List.reverse_nil, List.nil_append, join?_map_toNat, Option.map_some,
    String.ofList_toList]

/-! ## Numbers -/

/-- A number ends here: neither a digit comes next nor a fraction or an exponent. -/
def Stops (rest : List Char) : Prop :=
  ∀ c ∈ rest.head?, c.isDigit = false ∧ c ≠ '.' ∧ c ≠ 'e' ∧ c ≠ 'E'

theorem digits_append {ds rest : List Char} (hd : ∀ c ∈ ds, c.isDigit = true)
    (hr : ∀ c ∈ rest.head?, c.isDigit = false) : digits (ds ++ rest) = (ds, rest) := by
  rw [digits, List.span_eq_takeWhile_dropWhile, List.takeWhile_append_of_pos hd,
    List.dropWhile_append_of_pos hd]
  cases rest with
  | nil => simp
  | cons c rest =>
    have hc := hr c rfl
    simp [hc]

theorem fraction?_of_stops {rest : List Char} (hr : Stops rest) :
    fraction? rest = some (none, rest) := by
  cases rest with
  | nil => rfl
  | cons c rest =>
    have hpoint : c ≠ '.' := (hr c rfl).2.1
    unfold fraction?
    split
    · next h => exact absurd (List.cons.inj h).1 hpoint
    · rfl

theorem exponent?_of_stops {rest : List Char} (hr : Stops rest) :
    exponent? rest = some (none, rest) := by
  cases rest with
  | nil => rfl
  | cons c rest =>
    obtain ⟨-, -, he, hE⟩ := hr c rfl
    have hnone : ¬ (c = 'e' ∨ c = 'E') := not_or.2 ⟨he, hE⟩
    unfold exponent?
    dsimp only
    rw [if_neg hnone]

theorem exists_digits_eq_cons (n : Nat) :
    ∃ d ds, Text.Decimal.digits n = d :: ds ∧ d.isDigit = true := by
  obtain ⟨d, ds, h⟩ := List.exists_cons_of_ne_nil
    (show Text.Decimal.digits n ≠ [] from Nat.toDigits_ne_nil)
  exact ⟨d, ds, h, Decimal.isDigit_of_mem_digits (h ▸ List.mem_cons_self)⟩

theorem exponentDigits?_digits (isNegative : Bool) (n : Nat) {rest : List Char} (hr : Stops rest) :
    exponentDigits? isNegative (Text.Decimal.digits n ++ rest) =
      some (if isNegative then -(n : Int) else n, rest) := by
  have hvalue := Decimal.valueOf_digits n
  obtain ⟨d, ds, hds, -⟩ := exists_digits_eq_cons n
  rw [exponentDigits?,
    digits_append (fun c => Decimal.isDigit_of_mem_digits) fun c hc => (hr c hc).1, hds]
  dsimp only
  rw [← hds, hvalue]

/-- What is written for an exponent. -/
def exponentChars : Int → List Char
  | .ofNat n => Text.Decimal.digits n
  | .negSucc n => '-' :: Text.Decimal.digits (n + 1)

theorem exponent?_exponentChars (e : Int) {rest : List Char} (hr : Stops rest) :
    exponent? ('e' :: (exponentChars e ++ rest)) = some (some e, rest) := by
  unfold exponent?
  dsimp only
  rw [if_pos (.inl rfl)]
  cases e with
  | ofNat n =>
    obtain ⟨d, ds, hds, hdigit⟩ := exists_digits_eq_cons n
    have hread := exponentDigits?_digits false n hr
    rw [exponentChars]
    rw [hds, List.cons_append] at hread ⊢
    split
    · next h =>
      obtain ⟨rfl, -⟩ := List.cons.inj h
      exact absurd hdigit (by decide)
    · next h =>
      obtain ⟨rfl, -⟩ := List.cons.inj h
      exact absurd hdigit (by decide)
    · rw [hread]
      rfl
  | negSucc n =>
    show Option.map _ (exponentDigits? true (Text.Decimal.digits (n + 1) ++ rest)) = _
    rw [exponentDigits?_digits true (n + 1) hr]
    rfl

/-- The digits of a number are neither missing nor led by a zero. -/
theorem digits_canonical (n : Nat) : ¬ (Text.Decimal.digits n = [] ∨
    ((Text.Decimal.digits n).head? = some '0' ∧ (Text.Decimal.digits n).length > 1)) := by
  rintro (hnil | ⟨hhead, hlong⟩)
  · exact Nat.toDigits_ne_nil hnil
  · rcases Nat.eq_zero_or_pos n with rfl | hpos
    · exact absurd hlong (by decide)
    · exact Decimal.head?_digits hpos hhead

theorem numberBody_digits (isNegative : Bool) (n : Nat) {rest : List Char} (hr : Stops rest) :
    numberBody isNegative (Text.Decimal.digits n ++ rest) =
      some (if isNegative then (if n = 0 then .decimal true 0 0 else .negative n) else .natural n,
        rest) := by
  rw [numberBody, digits_append (fun c => Decimal.isDigit_of_mem_digits) fun c hc => (hr c hc).1]
  dsimp only
  rw [if_neg (digits_canonical n), fraction?_of_stops hr, Decimal.valueOf_digits]
  simp only [bind, Option.bind, exponent?_of_stops hr]
  cases isNegative with
  | false => rfl
  | true => by_cases hn : n = 0 <;> simp [hn]

theorem numberBody_decimal (isNegative : Bool) (mantissa : Nat) (e : Int) {rest : List Char}
    (hr : Stops rest) :
    numberBody isNegative (Text.Decimal.digits mantissa ++ 'e' :: (exponentChars e ++ rest)) =
      some (.decimal isNegative mantissa e, rest) := by
  rw [numberBody, digits_append (fun c => Decimal.isDigit_of_mem_digits) (by rintro _ ⟨⟩; decide)]
  dsimp only
  rw [if_neg (digits_canonical mantissa)]
  show (exponent? ('e' :: (exponentChars e ++ rest))).bind _ = _
  rw [exponent?_exponentChars e hr]
  simp [Decimal.valueOf_digits]

/-! ## Values -/

/-- A value whose text says all of it: its strings are texts, and no zero is written as the negative
of a natural number. -/
def Printable : Json → Prop
  | null | bool _ => True
  | number n => n ≠ .negative 0
  | string s => s.isSome
  | array items => elements items
  | object fields => members fields
where
  elements : List Json → Prop
    | [] => True
    | a :: rest => a.Printable ∧ elements rest
  members : List (JsonString × Json) → Prop
    | [] => True
    | (name, a) :: rest => name.isSome ∧ a.Printable ∧ members rest

theorem skipBlanks_cons {c : Char} (hc : isBlank c = false) (rest : List Char) :
    skipBlanks (c :: rest) = c :: rest := by
  simp [skipBlanks, hc]

theorem isBlank_of_isDigit {d : Char} (hd : d.isDigit = true) : isBlank d = false := by
  cases hb : isBlank d with
  | false => rfl
  | true =>
    simp only [isBlank, Bool.or_eq_true, decide_eq_true_eq] at hb
    rcases hb with ((rfl | rfl) | rfl) | rfl <;> exact absurd hd (by decide)

/-- What a value starts with is neither blank nor the end of an array. -/
theorem exists_chars_eq_cons (j : Json) :
    ∃ c cs, j.chars = c :: cs ∧ isBlank c = false ∧ c ≠ ']' := by
  have hdigit : ∀ d : Char, d.isDigit = true → isBlank d = false ∧ d ≠ ']' := fun d hd =>
    ⟨isBlank_of_isDigit hd, by rintro rfl; exact absurd hd (by decide)⟩
  cases j with
  | null => exact ⟨'n', _, rfl, by decide, by decide⟩
  | bool b =>
    cases b with
    | false => exact ⟨'f', _, rfl, by decide, by decide⟩
    | true => exact ⟨'t', _, rfl, by decide, by decide⟩
  | string s => exact ⟨'"', _, rfl, by decide, by decide⟩
  | array items => exact ⟨'[', _, rfl, by decide, by decide⟩
  | object fields => exact ⟨'\x7b', _, rfl, by decide, by decide⟩
  | number n =>
    cases n with
    | natural n =>
      obtain ⟨d, ds, hds, hd⟩ := exists_digits_eq_cons n
      exact ⟨d, ds, hds, hdigit d hd⟩
    | negative n => exact ⟨'-', _, rfl, by decide, by decide⟩
    | decimal isNegative m e =>
      cases isNegative with
      | true => exact ⟨'-', _, rfl, by decide, by decide⟩
      | false =>
        obtain ⟨d, ds, hds, hd⟩ := exists_digits_eq_cons m
        have hchars : (number (.decimal false m e)).chars =
            Text.Decimal.digits m ++ 'e' :: exponentChars e := by cases e <;> rfl
        exact ⟨d, _, hchars.trans (by rw [hds]; rfl), hdigit d hd⟩

section Scalars

variable (fuel : Nat) {rest : List Char}

/-- A text that starts with a digit is read as a number. -/
theorem value?_of_isDigit {d : Char} (hd : d.isDigit = true) (rest : List Char) :
    value? (fuel + 1) (d :: rest) =
      (numberBody false (d :: rest)).map fun (n, rest) => (.number n, rest) := by
  rw [value?, skipBlanks_cons (isBlank_of_isDigit hd)]
  split
  all_goals first
    | rfl
    | next h =>
      obtain ⟨rfl, -⟩ := List.cons.inj h
      exact absurd hd (by decide)

theorem value?_digits (n : Nat) (rest : List Char) :
    value? (fuel + 1) (Text.Decimal.digits n ++ rest) =
      (numberBody false (Text.Decimal.digits n ++ rest)).map
        fun (n, rest) => (.number n, rest) := by
  obtain ⟨d, ds, hds, hd⟩ := exists_digits_eq_cons n
  rw [hds, List.cons_append]
  exact value?_of_isDigit fuel hd _

theorem value?_number (n : JsonNumber) (hn : n ≠ .negative 0) (hr : Stops rest) :
    value? (fuel + 1) ((number n).chars ++ rest) = some (number n, rest) := by
  cases n with
  | natural n => exact (value?_digits fuel n rest).trans (by rw [numberBody_digits false n hr]; rfl)
  | negative n =>
    have hpos : n ≠ 0 := fun e => hn (e ▸ rfl)
    show (numberBody true (Text.Decimal.digits n ++ rest)).map _ = _
    rw [numberBody_digits true n hr, if_pos rfl, if_neg hpos]
    rfl
  | decimal isNegative m e =>
    have hchars : JsonNumber.chars (.decimal isNegative m e) =
        (if isNegative then ['-'] else []) ++ Text.Decimal.digits m ++ 'e' :: exponentChars e := by
      cases e <;> rfl
    have hread := numberBody_decimal isNegative m e hr
    rw [chars, hchars, List.append_assoc, List.append_assoc, List.cons_append]
    cases isNegative with
    | true =>
      show (numberBody true (Text.Decimal.digits m ++ 'e' :: (exponentChars e ++ rest))).map _ = _
      rw [hread]
      rfl
    | false =>
      refine (value?_digits fuel m _).trans ?_
      rw [hread]
      rfl

theorem value?_text (s : String) :
    value? (fuel + 1) ((string (some s)).chars ++ rest) = some (string (some s), rest) := by
  show (stringBody [] (s.toList.flatMap escape ++ ['"'] ++ rest)).map _ = _
  rw [List.append_assoc, List.singleton_append, stringBody_quoted]
  rfl

end Scalars

theorem stops_cons {c : Char} (hc : c.isDigit = false ∧ c ≠ '.' ∧ c ≠ 'e' ∧ c ≠ 'E')
    (rest : List Char) : Stops (c :: rest) := by
  rintro _ ⟨⟩
  exact hc

theorem elements_cons_cons (a b : Json) (items : List Json) :
    chars.elements (a :: b :: items) = a.chars ++ ',' :: chars.elements (b :: items) := rfl

theorem members_cons_cons (name : JsonString) (a : Json) (m : JsonString × Json)
    (fields : List (JsonString × Json)) : chars.members ((name, a) :: m :: fields) =
      quoted (name.getD "") ++ ':' :: (a.chars ++ ',' :: chars.members (m :: fields)) := rfl

theorem exists_elements_eq_cons (a : Json) (items : List Json) :
    ∃ c cs, chars.elements (a :: items) = c :: cs ∧ isBlank c = false ∧ c ≠ ']' := by
  obtain ⟨c, cs, hcs, hc⟩ := a.exists_chars_eq_cons
  cases items with
  | nil => exact ⟨c, cs, hcs, hc⟩
  | cons b items => exact ⟨c, _, by rw [elements_cons_cons, hcs]; rfl, hc⟩

theorem value?_members (fuel : Nat) (name : JsonString) (a : Json)
    (fields : List (JsonString × Json)) (rest : List Char) :
    value? (fuel + 1) ('\x7b' :: (chars.members ((name, a) :: fields) ++ rest)) =
      (members? fuel [] (chars.members ((name, a) :: fields) ++ rest)).map
        fun (members, rest) => (.object members, rest) := by
  cases fields <;> rfl

theorem value?_elements (fuel : Nat) {c : Char} (hblank : isBlank c = false) (hend : c ≠ ']')
    (cs : List Char) : value? (fuel + 1) ('[' :: c :: cs) =
      (elements? fuel [] (c :: cs)).map fun (items, rest) => (.array items, rest) := by
  simp only [value?, skipBlanks_cons (c := '[') (by decide), skipBlanks_cons hblank]
  split
  · next h => exact absurd (List.cons.inj h).1 hend
  · rfl

mutual

/-- The text of a value, in front of a text that does not go on with it, is read as the value. There
has to be more fuel than the text is long. -/
theorem value?_chars : (j : Json) → j.Printable → {fuel : Nat} → j.chars.length < fuel →
    {rest : List Char} → Stops rest → value? fuel (j.chars ++ rest) = some (j, rest)
  | null, _, _ + 1, _, _, _ => rfl
  | bool b, _, _ + 1, _, _, _ => by cases b <;> rfl
  | number n, h, fuel + 1, _, _, hr => value?_number fuel n h hr
  | string s, h, fuel + 1, _, rest, _ => by
    obtain ⟨s, rfl⟩ := Option.isSome_iff_exists.1 h
    exact value?_text fuel s
  | array [], _, _ + 1, _, _, _ => rfl
  | array (a :: items), h, fuel + 1, hf, rest, _ => by
    obtain ⟨c, cs, hcs, hblank, hend⟩ := exists_elements_eq_cons a items
    have hlong : (chars.elements (a :: items)).length + 1 < fuel := by
      simpa [chars] using hf
    have hread := elements?_chars a items h hlong [] rest
    have hchars : (array (a :: items)).chars ++ rest =
        '[' :: (chars.elements (a :: items) ++ ']' :: rest) := by simp [chars]
    rw [hchars]
    rw [hcs, List.cons_append] at hread ⊢
    rw [value?_elements fuel hblank hend, hread]
    rfl
  | object [], _, _ + 1, _, _, _ => rfl
  | object ((name, a) :: fields), h, fuel + 1, hf, rest, _ => by
    have hlong : (chars.members ((name, a) :: fields)).length + 1 < fuel := by
      simpa [chars] using hf
    have hread := members?_chars name a fields h hlong [] rest
    have hchars : (object ((name, a) :: fields)).chars ++ rest =
        '\x7b' :: (chars.members ((name, a) :: fields) ++ '\x7d' :: rest) := by simp [chars]
    rw [hchars, value?_members, hread]
    rfl

theorem elements?_chars : (a : Json) → (items : List Json) → Printable.elements (a :: items) →
    {fuel : Nat} → (chars.elements (a :: items)).length + 1 < fuel → (taken : List Json) →
    (rest : List Char) → elements? fuel taken (chars.elements (a :: items) ++ ']' :: rest) =
      some (taken.reverse ++ a :: items, rest)
  | a, [], h, fuel + 1, hf, taken, rest => by
    have hlong : a.chars.length < fuel := Nat.lt_of_succ_lt_succ hf
    have hread := value?_chars a h.1 hlong (stops_cons (c := ']') (by decide) rest)
    rw [chars.elements, elements?, hread]
    simp [skipBlanks_cons (c := ']') (by decide)]
  | a, b :: items, h, fuel + 1, hf, taken, rest => by
    have hlong : a.chars.length < fuel ∧ (chars.elements (b :: items)).length + 1 < fuel := by
      simp only [chars.elements, List.length_append, List.length_cons] at hf
      omega
    have hread := value?_chars a h.1 hlong.1
      (stops_cons (c := ',') (by decide) (chars.elements (b :: items) ++ ']' :: rest))
    have hrest := elements?_chars b items h.2 hlong.2 (a :: taken) rest
    rw [elements_cons_cons, List.append_assoc, List.cons_append, elements?, hread]
    simp [skipBlanks_cons (c := ',') (by decide), hrest]

theorem members?_chars : (name : JsonString) → (a : Json) → (fields : List (JsonString × Json)) →
    Printable.members ((name, a) :: fields) → {fuel : Nat} →
    (chars.members ((name, a) :: fields)).length + 1 < fuel → (taken : List (JsonString × Json)) →
    (rest : List Char) →
    members? fuel taken (chars.members ((name, a) :: fields) ++ '\x7d' :: rest) =
      some (taken.reverse ++ (name, a) :: fields, rest)
  | some name, a, [], h, fuel + 1, hf, taken, rest => by
    have hlong : a.chars.length < fuel := by
      simp only [chars.members, List.length_append, List.length_cons] at hf
      omega
    have hread := value?_chars a h.2.1 hlong (stops_cons (c := '\x7d') (by decide) rest)
    have hchars : chars.members [(some name, a)] ++ '\x7d' :: rest =
        '"' :: (name.toList.flatMap escape ++ '"' :: ':' :: (a.chars ++ '\x7d' :: rest)) := by
      simp [chars.members, quoted]
    rw [hchars, members?, skipBlanks_cons (by decide)]
    simp only [stringBody_quoted, skipBlanks_cons (c := ':') (by decide), hread,
      skipBlanks_cons (c := '\x7d') (by decide), List.reverse_cons]
  | some name, a, (other, b) :: fields, h, fuel + 1, hf, taken, rest => by
    have hlong : a.chars.length < fuel ∧
        (chars.members ((other, b) :: fields)).length + 1 < fuel := by
      simp only [chars.members, List.length_append, List.length_cons] at hf
      omega
    have hread := value?_chars a h.2.1 hlong.1
      (stops_cons (c := ',') (by decide) (chars.members ((other, b) :: fields) ++ '\x7d' :: rest))
    have hrest := members?_chars other b fields h.2.2 hlong.2 ((some name, a) :: taken) rest
    have hchars : chars.members ((some name, a) :: (other, b) :: fields) ++ '\x7d' :: rest =
        '"' :: (name.toList.flatMap escape ++ '"' :: ':' ::
          (a.chars ++ ',' :: (chars.members ((other, b) :: fields) ++ '\x7d' :: rest))) := by
      simp [members_cons_cons, quoted]
    rw [hchars, members?, skipBlanks_cons (by decide)]
    simp only [stringBody_quoted, skipBlanks_cons (c := ':') (by decide), hread,
      skipBlanks_cons (c := ',') (by decide), hrest]
    rw [List.reverse_cons, List.append_assoc, List.singleton_append]

end

/-- A value is read back from its text. -/
theorem parse?_compact {j : Json} (h : j.Printable) : parse? j.compact = some j := by
  have hstops : Stops [] := by rintro _ ⟨⟩
  have hread := value?_chars j h (Nat.lt_succ_self _) hstops
  rw [List.append_nil] at hread
  rw [parse?, compact, String.toList_ofList, hread]
  rfl

end BuildQueue.Json
