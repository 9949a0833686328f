import BuildQueue.Proofs.Job.WrittenForm

/-!
# The grammar of written keys

Which lines are read as a key, and as which: `Grammar` says it without the reader. A line has six
parts with `update` in the third place or five with `branch`; the other parts are percent forms of
texts, and the last one is a commit id (`parse_exact`).
-/

namespace BuildQueue

/-! ## Percent forms -/

namespace Text.Percent

/-- The bytes that a percent form stands for. A `%` is itself unless two hexadecimal digits follow
it. -/
inductive Stands : List Char → List UInt8 → Prop
  | nil : Stands [] []
  | escape {high low : Char} {a b : Fin 16} {rest : List Char} {bytes : List UInt8}
      (hhigh : Hex.digit? high = some a) (hlow : Hex.digit? low = some b)
      (h : Stands rest bytes) :
      Stands ('%' :: high :: low :: rest) (UInt8.ofNat (a.val * 16 + b.val) :: bytes)
  | percent {rest : List Char} {bytes : List UInt8}
      (hplain : ∀ high low more, rest = high :: low :: more →
        Hex.digit? high = none ∨ Hex.digit? low = none)
      (h : Stands rest bytes) : Stands ('%' :: rest) (0x25 :: bytes)
  | char {c : Char} {rest : List Char} {bytes : List UInt8} (hc : c ≠ '%')
      (h : Stands rest bytes) : Stands (c :: rest) (String.utf8EncodeChar c ++ bytes)

theorem utf8EncodeChar_percent : String.utf8EncodeChar '%' = [0x25] := by decide

/-- A `%` that no two digits follow is read as itself. -/
theorem bytesOf_percent {rest : List Char} (hplain : ∀ high low more, rest = high :: low :: more →
    Hex.digit? high = none ∨ Hex.digit? low = none) :
    bytesOf ('%' :: rest) = 0x25 :: bytesOf rest := by
  cases rest with
  | nil => simp [bytesOf, utf8EncodeChar_percent]
  | cons high rest =>
    cases rest with
    | nil => simp [bytesOf, utf8EncodeChar_percent]
    | cons low more =>
      rw [bytesOf, utf8EncodeChar_percent]
      split
      · next a b hhigh hlow =>
        rcases hplain high low more rfl with h | h
        · rw [h] at hhigh; cases hhigh
        · rw [h] at hlow; cases hlow
      · rfl

theorem stands_bytesOf (form : List Char) : Stands form (bytesOf form) := by
  fun_induction bytesOf form with
  | case1 => exact .nil
  | case2 high low rest a b hlow hhigh ih => exact .escape hhigh hlow ih
  | case3 high low rest hn ih =>
    rw [utf8EncodeChar_percent]
    refine .percent (fun h l more e => ?_) ih
    cases e
    cases hh : Hex.digit? high with
    | none => exact .inl rfl
    | some a =>
      cases hl : Hex.digit? low with
      | none => exact .inr rfl
      | some b => exact (hn a b hh hl).elim
  | case4 c rest hn ih =>
    by_cases hc : c = '%'
    · subst hc
      rw [utf8EncodeChar_percent]
      exact .percent (fun h l more e => (hn h l more rfl e).elim) ih
    · exact .char hc ih

theorem Stands.bytesOf_eq {form : List Char} {bytes : List UInt8} (h : Stands form bytes) :
    bytesOf form = bytes := by
  induction h with
  | nil => rfl
  | escape hhigh hlow _ ih => simp only [bytesOf, hhigh, hlow, ih]
  | percent hplain _ ih => rw [bytesOf_percent hplain, ih]
  | char hc _ ih => rw [bytesOf_cons hc, ih]

/-- A percent form of a text: it stands for the bytes of the text. -/
def Spells (form s : String) : Prop := Stands form.toList (Utf8.encode s.toList)

theorem decode_eq_ok_iff {form s : String} : decode form = .ok s ↔ Spells form s := by
  refine ⟨fun h => ?_, fun h => ?_⟩
  · rw [Spells, bytesOf_of_decode h]
    exact stands_bytesOf _
  · rw [decode, h.bytesOf_eq, Utf8.decode_encode]
    simp [Except.map]

end Text.Percent

/-! ## Commit ids -/

namespace CommitId

/-- A commit id as it may be written: 40 or 64 hexadecimal digits, which are kept in lowercase. -/
structure Names (hash : String) (commit : CommitId) : Prop where
  length : hash.length = 40 ∨ hash.length = 64
  digits : ∀ c ∈ hash.toList, (Text.Hex.digit? c).isSome = true
  lowercase : commit.text.toList = hash.toList.map Char.toLower

theorem lower_eq_toLower {c : Char} {d : Fin 16} (h : Text.Hex.digit? c = some d) :
    Text.Hex.lower d = c.toLower := by
  have hall : ∀ (n : Fin 128) (d : Fin 16), Text.Hex.digit? (Char.ofNat n) = some d →
      Text.Hex.lower d = (Char.ofNat n).toLower := by
    decide +kernel
  have hc := hall ⟨c.toNat, toNat_lt_of_digit? h⟩ d
  simp only [Char.ofNat_toNat] at hc
  exact hc h

/-- What is read digit by digit has as many digits, written in lowercase. -/
theorem digits_of_mapM {s : List Char} {ds : List (Fin 16)} (h : s.mapM Text.Hex.digit? = some ds) :
    ds.length = s.length ∧ (∀ c ∈ s, (Text.Hex.digit? c).isSome = true) ∧
      ds.map Text.Hex.lower = s.map Char.toLower := by
  induction s generalizing ds with
  | nil =>
    obtain rfl := Option.some.inj h
    simp
  | cons c s ih =>
    rw [List.mapM_cons] at h
    obtain ⟨d, hd, h⟩ := Option.bind_eq_some_iff.1 h
    obtain ⟨ds, hds, h⟩ := Option.bind_eq_some_iff.1 h
    obtain rfl := Option.some.inj h
    obtain ⟨hlength, hall, hlower⟩ := ih hds
    refine ⟨by simp [hlength], List.forall_mem_cons.2 ⟨by simp [hd], hall⟩, ?_⟩
    simp [hlower, lower_eq_toLower hd]

theorem exists_mapM_digit? {s : List Char} (h : ∀ c ∈ s, (Text.Hex.digit? c).isSome = true) :
    ∃ ds, s.mapM Text.Hex.digit? = some ds := by
  induction s with
  | nil => exact ⟨[], rfl⟩
  | cons c s ih =>
    obtain ⟨hc, hs⟩ := List.forall_mem_cons.1 h
    obtain ⟨d, hd⟩ := Option.isSome_iff_exists.1 hc
    obtain ⟨ds, hds⟩ := ih hs
    exact ⟨d :: ds, by rw [List.mapM_cons, hd, hds]; rfl⟩

/-- What a text is read as, if it is read at all. -/
theorem parse_eq (s : String) : parse s =
    match s.toList.mapM Text.Hex.digit? with
    | some digits =>
      if h : digits.length = 40 ∨ digits.length = 64 then .ok ⟨digits, h⟩
      else .error (.malformedCommit s)
    | none => .error (.malformedCommit s) := by
  rw [parse, ofChars?]
  cases s.toList.mapM Text.Hex.digit? with
  | none => rfl
  | some digits =>
    by_cases h : digits.length = 40 ∨ digits.length = 64
    · simp only [dif_pos h]
    · simp only [dif_neg h]

theorem parse_eq_ok_iff {hash : String} {commit : CommitId} :
    parse hash = .ok commit ↔ Names hash commit := by
  rw [parse_eq]
  constructor
  · intro h
    split at h
    · next digits hd =>
      obtain ⟨hlength, hdigits, hlower⟩ := digits_of_mapM hd
      rw [String.length_toList] at hlength
      split at h
      · next hl =>
        obtain rfl := Except.ok.inj h
        exact ⟨hlength ▸ hl, hdigits, by rw [text, String.toList_ofList, chars, hlower]⟩
      · cases h
    · cases h
  · rintro ⟨hl, hdigits, hlowercase⟩
    obtain ⟨digits, hd⟩ := exists_mapM_digit? hdigits
    obtain ⟨hlength, -, hlower⟩ := digits_of_mapM hd
    rw [String.length_toList] at hlength
    simp only [hd]
    rw [dif_pos (hlength ▸ hl)]
    congr 1
    rw [← text_inj, ← String.toList_inj, hlowercase, text, String.toList_ofList, chars, hlower]

end CommitId

/-! ## Keys -/

namespace JobKey

open Text.Percent (Spells)

/-- A line is made of parts with the separator between them, which none of the parts holds. -/
def Line (s : String) (parts : List String) : Prop :=
  s.toList = Text.Fields.join separator (parts.map String.toList) ∧
    ∀ part ∈ parts, separator ∉ part.toList

/-- The lines that name a job, and the job that each one names. -/
inductive Grammar (s : String) : JobKey → Prop
  | update {id path change target hash : String} {source : Source} {u t : String}
      {commit : CommitId} (hline : Line s [id, path, "update", change, target, hash])
      (hid : Spells id source.id) (hpath : Spells path source.path) (hchange : Spells change u)
      (htarget : Spells target t) (hcommit : commit.Names hash) :
      Grammar s ⟨source, .update u t, commit⟩
  | branch {id path name hash : String} {source : Source} {b : String} {commit : CommitId}
      (hline : Line s [id, path, "branch", name, hash]) (hid : Spells id source.id)
      (hpath : Spells path source.path) (hname : Spells name b) (hcommit : commit.Names hash) :
      Grammar s ⟨source, .branch b, commit⟩

theorem line_iff {s : String} {line : List String} (hne : line ≠ []) :
    Line s line ↔ parts s = line := by
  have hmap : parts s = line ↔
      Text.Fields.split separator s.toList = line.map String.toList := by
    refine ⟨?_, fun h => by simp [parts, h]⟩
    rintro rfl
    simp [parts]
  rw [hmap, Text.Fields.split_eq_iff (by simpa using hne), Line, List.forall_mem_map]

theorem decodeField_eq_ok_iff {field s : String} :
    decodeField field = .ok s ↔ Spells field s := by
  rw [← Text.Percent.decode_eq_ok_iff, decodeField]
  cases Text.Percent.decode field with
  | error fault =>
    change Except.error _ = Except.ok s ↔ _
    simp only [reduceCtorEq]
  | ok t =>
    change Except.ok t = Except.ok s ↔ _
    simp only [Except.ok.injEq]

/-- A line whose parts are those of a key is read as that key. -/
theorem parse_of_reads {s : String} {k : JobKey} (h : Reads (parts s) k) : parse s = .ok k := by
  generalize hline : parts s = line at h
  cases h with
  | update hid hpath hchange htarget hcommit =>
    rw [parse, ← parts, hline]
    simp only [List.length_cons, List.length_nil, hid, hpath, parseRef, hchange, htarget, hcommit]
    rfl
  | branch hid hpath hname hcommit =>
    rw [parse, ← parts, hline]
    simp only [List.length_cons, List.length_nil, hid, hpath, parseRef, hname, hcommit]
    rfl

theorem grammar_iff_reads {s : String} {k : JobKey} : Grammar s k ↔ Reads (parts s) k := by
  constructor
  · intro h
    cases h with
    | update hline hid hpath hchange htarget hcommit =>
      rw [(line_iff (by simp)).1 hline]
      exact .update (decodeField_eq_ok_iff.2 hid) (decodeField_eq_ok_iff.2 hpath)
        (decodeField_eq_ok_iff.2 hchange) (decodeField_eq_ok_iff.2 htarget)
        (CommitId.parse_eq_ok_iff.2 hcommit)
    | branch hline hid hpath hname hcommit =>
      rw [(line_iff (by simp)).1 hline]
      exact .branch (decodeField_eq_ok_iff.2 hid) (decodeField_eq_ok_iff.2 hpath)
        (decodeField_eq_ok_iff.2 hname) (CommitId.parse_eq_ok_iff.2 hcommit)
  · intro h
    generalize hline : parts s = line at h
    cases h with
    | update hid hpath hchange htarget hcommit =>
      exact .update ((line_iff (by simp)).2 hline) (decodeField_eq_ok_iff.1 hid)
        (decodeField_eq_ok_iff.1 hpath) (decodeField_eq_ok_iff.1 hchange)
        (decodeField_eq_ok_iff.1 htarget) (CommitId.parse_eq_ok_iff.1 hcommit)
    | branch hid hpath hname hcommit =>
      exact .branch ((line_iff (by simp)).2 hline) (decodeField_eq_ok_iff.1 hid)
        (decodeField_eq_ok_iff.1 hpath) (decodeField_eq_ok_iff.1 hname)
        (CommitId.parse_eq_ok_iff.1 hcommit)

/-- A line is read as a key exactly if it names that key, and is refused exactly if it names
none. -/
theorem parse_exact (s : String) :
    (∀ k : JobKey, parse s = .ok k ↔ Grammar s k) ∧
    ((∃ e : ParseError, parse s = .error e) ↔ ¬ ∃ k, Grammar s k) := by
  have hok (k : JobKey) : parse s = .ok k ↔ Grammar s k :=
    ⟨fun h => grammar_iff_reads.2 (reads_of_parse h),
      fun h => parse_of_reads (grammar_iff_reads.1 h)⟩
  refine ⟨hok, ?_⟩
  simp only [← hok]
  cases parse s with
  | error e => simp
  | ok k => simp

end JobKey

end BuildQueue
