import BuildQueue.Version
import BuildQueue.Proofs.Pattern.Spans
import BuildQueue.Proofs.Text.Fields
import BuildQueue.Proofs.Text.Number

/-!
# Release tags

A release tag is `v` and three runs of decimal digits of any script with dots between them
(`Version.isReleaseTag_iff`), which is what the expression `^v(\d+)\.(\d+)\.(\d+)$` matches
(`Version.isReleaseTag_iff_matches`). It has a version if its digits are of ASCII and stand for
numbers of 64 bits (`Version.ofTag?_eq_some`). Of the tags of one version the one that is written for
it is the one without leading zeros (`Version.eq_tag_iff`).
-/

namespace BuildQueue

open Text (IsRun Decimal.Denotes Decimal.Unpadded Fields.join Fields.split)
open Text.DecimalDigit (isDecimalDigit)

namespace Version

/-- The text `v`, `a`, `.`, `b`, `.`, `c`. -/
def tagOf (a b c : List Char) : String :=
  "v" ++ String.ofList a ++ "." ++ String.ofList b ++ "." ++ String.ofList c

/-- A tag whose numbers are written in ASCII and without leading zeros. -/
def IsPlainTag (tag : String) : Prop :=
  ∃ a b c, tag = tagOf a b c ∧ ∀ s ∈ [a, b, c], IsRun Char.isDigit s ∧ Decimal.Unpadded s

section Runs

variable {t : String} {a b c : List Char} {v w : Version}

theorem toList_tagOf (a b c : List Char) :
    (tagOf a b c).toList = 'v' :: Fields.join '.' [a, b, c] := by
  simp [tagOf, Fields.join]

theorem tag_eq_tagOf (v : Version) : v.tag = tagOf (Text.Decimal.digits v.major.toNat)
    (Text.Decimal.digits v.minor.toNat) (Text.Decimal.digits v.patch.toNat) := by
  rw [← String.toList_inj, toList_tagOf]
  simp [tag, text, components]

theorem dot_not_mem_of_isRun {s : List Char} (h : IsRun isDecimalDigit s) : '.' ∉ s := fun hm =>
  absurd (h.2 '.' hm) (by decide)

theorem isRun_of_isRun_isDigit {s : List Char} (h : IsRun Char.isDigit s) :
    IsRun isDecimalDigit s :=
  ⟨h.1, fun c hc => Text.DecimalDigit.isDecimalDigit_of_isDigit (h.2 c hc)⟩

/-- A tag has three runs in one way. -/
theorem tagRuns?_eq_some : tagRuns? t = some (a, b, c) ↔
    t = tagOf a b c ∧ ∀ s ∈ [a, b, c], IsRun isDecimalDigit s := by
  have hruns : ∀ s : List Char, (!s.isEmpty && s.all isDecimalDigit) = true ↔
      IsRun isDecimalDigit s := by
    simp [IsRun]
  constructor
  · intro h
    unfold tagRuns? at h
    split at h
    · next rest ht =>
      split at h
      · next a' b' c' hsplit =>
        obtain ⟨hall, ⟨⟩⟩ := Option.ite_none_right_eq_some.1 h
        refine ⟨?_, fun s hs => (hruns s).1 (List.all_eq_true.1 hall s hs)⟩
        rw [← String.toList_inj, ht, toList_tagOf, ← hsplit, Text.Fields.join_split]
      · cases h
    · cases h
  · rintro ⟨rfl, hall⟩
    have hsplit : Fields.split '.' (Fields.join '.' [a, b, c]) = [a, b, c] :=
      Text.Fields.split_join (by simp) fun s hs => dot_not_mem_of_isRun (hall s hs)
    simp only [tagRuns?, toList_tagOf, hsplit]
    exact if_pos (List.all_eq_true.2 fun s hs => (hruns s).2 (hall s hs))

theorem isReleaseTag_iff : isReleaseTag t = true ↔
    ∃ a b c, t = tagOf a b c ∧ ∀ s ∈ [a, b, c], IsRun isDecimalDigit s := by
  simp only [isReleaseTag, Option.isSome_iff_exists, Prod.exists, tagRuns?_eq_some]

theorem ofTag?_eq_some_of_runs : ofTag? t = some v ↔ ∃ a b c, tagRuns? t = some (a, b, c) ∧
    Decimal.Denotes a v.major ∧ Decimal.Denotes b v.minor ∧ Decimal.Denotes c v.patch := by
  obtain ⟨major, minor, patch⟩ := v
  simp only [ofTag?, ← Text.Decimal.parseWord?_eq_some, Option.bind_eq_bind,
    Option.bind_eq_some_iff, Prod.exists, Option.pure_def, Option.some.injEq, mk.injEq]
  constructor
  · rintro ⟨a, b, c, hruns, _, ha, _, hb, _, hc, rfl, rfl, rfl⟩
    exact ⟨a, b, c, hruns, ha, hb, hc⟩
  · rintro ⟨a, b, c, hruns, ha, hb, hc⟩
    exact ⟨a, b, c, hruns, major, ha, minor, hb, patch, hc, rfl, rfl, rfl⟩

/-- The version of a tag has the numbers that the runs of the tag stand for. -/
theorem ofTag?_eq_some : ofTag? t = some v ↔ ∃ a b c, t = tagOf a b c ∧
    Decimal.Denotes a v.major ∧ Decimal.Denotes b v.minor ∧ Decimal.Denotes c v.patch := by
  rw [ofTag?_eq_some_of_runs]
  refine exists_congr fun a => exists_congr fun b => exists_congr fun c => ?_
  rw [tagRuns?_eq_some, and_assoc]
  refine and_congr_right fun _ => and_iff_right_of_imp ?_
  rintro ⟨ha, hb, hc⟩ s hs
  simp only [List.mem_cons, List.not_mem_nil, or_false] at hs
  rcases hs with rfl | rfl | rfl
  · exact isRun_of_isRun_isDigit ha.1
  · exact isRun_of_isRun_isDigit hb.1
  · exact isRun_of_isRun_isDigit hc.1

theorem isReleaseTag_of_ofTag? (h : ofTag? t = some v) : isReleaseTag t = true := by
  obtain ⟨a, b, c, hruns, -⟩ := ofTag?_eq_some_of_runs.1 h
  rw [isReleaseTag, hruns]
  rfl

/-- A tag has no version if one of its runs stands for no number of 64 bits. -/
theorem ofTag?_eq_none_of_runs (hruns : tagRuns? t = some (a, b, c)) : ofTag? t = none ↔
    ∃ s ∈ [a, b, c], ¬ IsRun Char.isDigit s ∨ UInt64.size ≤ Nat.ofDigitChars 10 s 0 := by
  simp only [← Text.Decimal.parseWord?_eq_none, List.mem_cons, List.not_mem_nil, or_false,
    exists_eq_or_imp, exists_eq_left]
  simp only [ofTag?, hruns, Option.bind_eq_bind, Option.bind_some, Option.pure_def]
  cases Text.Decimal.parseWord? a <;> cases Text.Decimal.parseWord? b <;>
    cases Text.Decimal.parseWord? c <;> simp

theorem ofTag?_tag (v : Version) : ofTag? v.tag = some v :=
  ofTag?_eq_some.2 ⟨_, _, _, v.tag_eq_tagOf, Text.Decimal.denotes_digits _,
    Text.Decimal.denotes_digits _, Text.Decimal.denotes_digits _⟩

theorem tag_inj : v.tag = w.tag ↔ v = w := by
  refine ⟨fun h => ?_, congrArg tag⟩
  have hread := ofTag?_tag v
  rw [h, ofTag?_tag] at hread
  exact (Option.some.inj hread).symm

/-- The tag of a version is the one without leading zeros that is read as that version. -/
theorem eq_tag_iff : t = v.tag ↔ IsPlainTag t ∧ ofTag? t = some v := by
  constructor
  · rintro rfl
    refine ⟨⟨_, _, _, v.tag_eq_tagOf, ?_⟩, ofTag?_tag v⟩
    simp [Text.Decimal.isRun_digits, Text.Decimal.unpadded_digits]
  · rintro ⟨⟨a, b, c, ht, hplain⟩, hread⟩
    obtain ⟨a', b', c', hruns', ha, hb, hc⟩ := ofTag?_eq_some_of_runs.1 hread
    have hruns : tagRuns? t = some (a, b, c) :=
      tagRuns?_eq_some.2 ⟨ht, fun s hs => isRun_of_isRun_isDigit (hplain s hs).1⟩
    cases hruns.symm.trans hruns'
    have hdigits : ∀ {s : List Char} {n : UInt64}, s ∈ [a, b, c] → Decimal.Denotes s n →
        s = Text.Decimal.digits n.toNat := fun hs hn =>
      Text.Decimal.denotes_and_unpadded_iff.1 ⟨hn, (hplain _ hs).2⟩
    rw [ht, tag_eq_tagOf, hdigits (by simp) ha, hdigits (by simp) hb, hdigits (by simp) hc]

end Runs

/-! ## The expression -/

section Expression

open Pattern

variable {words : WordChars} {text : Array Char} {set : CharSet} {i j : Nat}

/-- Behind what is read from `i` on comes what is left to read. -/
theorem drop_add_length {l s r : List Char} (h : l.drop i = s ++ r) :
    l.drop (i + s.length) = r := by
  rw [← List.drop_drop, h, List.drop_left]

theorem spans_chars_iff : (Regex.chars set).Spans words text i j ↔
    ∃ c, text.toList.drop i = c :: text.toList.drop j ∧ set.contains c.toNat = true ∧
      j = i + 1 := by
  constructor
  · rintro ⟨rfl, c, hc, hset⟩
    obtain ⟨hlt, rfl⟩ := Array.getElem?_eq_some_iff.1 hc
    exact ⟨_, List.drop_eq_getElem_cons hlt, hset, rfl⟩
  · rintro ⟨c, hdrop, hset, rfl⟩
    refine ⟨rfl, c, ?_, hset⟩
    have hget := congrArg List.head? hdrop
    rwa [List.head?_drop, List.head?_cons, Array.getElem?_toList] at hget

theorem times_chars_iff {n : Nat} :
    Times (fun i j => (Regex.chars set).Spans words text i j) n i j ↔
      ∃ run : List Char, (∀ c ∈ run, set.contains c.toNat = true) ∧ run.length = n ∧
        text.toList.drop i = run ++ text.toList.drop j ∧ j = i + n := by
  induction n generalizing i with
  | zero =>
    constructor
    · rintro rfl
      exact ⟨[], by simp, rfl, rfl, rfl⟩
    · rintro ⟨run, -, -, -, rfl⟩
      rfl
  | succ n ih =>
    constructor
    · rintro ⟨k, hfirst, htimes⟩
      obtain ⟨c, hdrop, hc, rfl⟩ := spans_chars_iff.1 hfirst
      obtain ⟨run, hrun, hlen, hrest, rfl⟩ := ih.1 htimes
      refine ⟨c :: run, ?_, by rw [List.length_cons, hlen], ?_, by omega⟩
      · simpa using ⟨hc, hrun⟩
      · rw [hdrop, hrest, List.cons_append]
    · rintro ⟨run, hrun, hlen, hdrop, rfl⟩
      cases run with
      | nil => cases hlen
      | cons c run =>
        have hnext : text.toList.drop (i + 1) = run ++ text.toList.drop (i + (n + 1)) :=
          drop_add_length (s := [c]) hdrop
        refine ⟨i + 1, spans_chars_iff.2 ⟨c, ?_, hrun c List.mem_cons_self, rfl⟩,
          ih.2 ⟨run, fun d hd => hrun d (List.mem_cons_of_mem _ hd), by simpa using hlen, hnext,
            by omega⟩⟩
        rw [hdrop, hnext, List.cons_append]

/-- One or more characters of a set span the runs of such characters. -/
theorem spans_run_iff : (Regex.repeated (.chars set) 1 none).Spans words text i j ↔
    ∃ run, IsRun (fun c => set.contains c.toNat) run ∧
      text.toList.drop i = run ++ text.toList.drop j ∧ j = i + run.length := by
  constructor
  · rintro ⟨more, -, htimes⟩
    obtain ⟨run, hrun, hlen, hdrop, rfl⟩ := times_chars_iff.1 htimes
    exact ⟨run, ⟨List.ne_nil_of_length_pos (by omega), hrun⟩, hdrop, by rw [hlen]⟩
  · rintro ⟨run, ⟨hne, hrun⟩, hdrop, rfl⟩
    have hpos := List.length_pos_iff.2 hne
    exact ⟨run.length - 1, by simp, times_chars_iff.2 ⟨run, hrun, by omega, hdrop, by omega⟩⟩

/-- The expression of one character. -/
def exactly (c : Char) : Regex := .chars (.single c.toNat)

theorem spans_exactly_iff {c : Char} : (exactly c).Spans words text i j ↔
    text.toList.drop i = c :: text.toList.drop j ∧ j = i + 1 := by
  have hsingle : ∀ d : Char, (CharSet.single c.toNat).contains d.toNat = true ↔ d = c := by
    intro d
    rw [← Char.toNat_inj]
    simp [CharSet.single, CharSet.contains, Text.Ranges.contains]
    omega
  rw [exactly, spans_chars_iff]
  simp [hsingle]

/-- The expression of a run of decimal digits. -/
def digitRun : Regex := .repeated (.chars (.ranges Text.Category.decimalNumber)) 1 none

/-- A character that comes next is spanned. -/
theorem spans_exactly_of_drop (words : WordChars) {c : Char} {r : List Char}
    (h : text.toList.drop i = c :: r) :
    (exactly c).Spans words text i (i + 1) ∧ text.toList.drop (i + 1) = r := by
  have hr : text.toList.drop (i + 1) = r := drop_add_length (s := [c]) h
  exact ⟨spans_exactly_iff.2 ⟨by rw [h, hr], rfl⟩, hr⟩

/-- A run of digits that comes next is spanned. -/
theorem spans_digitRun_of_drop (words : WordChars) {run r : List Char}
    (hrun : IsRun isDecimalDigit run) (h : text.toList.drop i = run ++ r) :
    digitRun.Spans words text i (i + run.length) ∧
      text.toList.drop (i + run.length) = r := by
  have hr := drop_add_length h
  exact ⟨spans_run_iff.2 ⟨run, hrun, by rw [h, hr], rfl⟩, hr⟩

/-- The expression of a release tag. -/
def tagExpression : Regex :=
  .seq (exactly 'v') (.seq digitRun
    (.seq (exactly '.') (.seq digitRun (.seq (exactly '.') digitRun))))

theorem spans_tagExpression_iff {t : String} :
    tagExpression.Spans words t.toList.toArray 0 t.toList.toArray.size ↔
      ∃ a b c, t = tagOf a b c ∧ ∀ s ∈ [a, b, c], IsRun isDecimalDigit s := by
  constructor
  · rintro ⟨_, hv, _, ha, _, hdot, _, hb, _, hdot', hc⟩
    obtain ⟨hv, rfl⟩ := spans_exactly_iff.1 hv
    obtain ⟨a, hruna, ha, rfl⟩ := spans_run_iff.1 ha
    obtain ⟨hdot, rfl⟩ := spans_exactly_iff.1 hdot
    obtain ⟨b, hrunb, hb, rfl⟩ := spans_run_iff.1 hb
    obtain ⟨hdot', rfl⟩ := spans_exactly_iff.1 hdot'
    obtain ⟨c, hrunc, hc, -⟩ := spans_run_iff.1 hc
    refine ⟨a, b, c, ?_, by simpa using ⟨hruna, hrunb, hrunc⟩⟩
    rw [ha, hdot, hb, hdot', hc] at hv
    rw [← String.toList_inj, toList_tagOf]
    simpa [Fields.join] using hv
  · rintro ⟨a, b, c, rfl, hall⟩
    have h : (tagOf a b c).toList.toArray.toList.drop 0 = _ := toList_tagOf a b c
    obtain ⟨hv, h⟩ := spans_exactly_of_drop words h
    obtain ⟨ha, h⟩ := spans_digitRun_of_drop words (hall a (by simp)) h
    obtain ⟨hdot, h⟩ := spans_exactly_of_drop words h
    obtain ⟨hb, h⟩ := spans_digitRun_of_drop words (hall b (by simp)) h
    obtain ⟨hdot', h⟩ := spans_exactly_of_drop words h
    obtain ⟨hc, -⟩ := spans_digitRun_of_drop words (hall c (by simp))
      (h.trans (List.append_nil c).symm)
    have hsize : (tagOf a b c).toList.toArray.size =
        0 + 1 + a.length + 1 + b.length + 1 + c.length := by
      simp [toList_tagOf, Fields.join]
      omega
    exact ⟨_, hv, _, ha, _, hdot, _, hb, _, hdot', hsize ▸ hc⟩

/-- The expression between anchors matches the release tags. -/
theorem isReleaseTag_iff_matches : ∃ r,
    Regex.parse? "^v(\\d+)\\.(\\d+)\\.(\\d+)$".toList = some r ∧
      ∀ t : String, r.matchesWithin wordChars t.toList.toArray = true ↔ isReleaseTag t = true := by
  refine ⟨_, rfl, fun t => ?_⟩
  -- A sequence is followed part by part, however it is grouped.
  show tagExpression.anchored.matchesWithin wordChars t.toList.toArray = true ↔ _
  rw [Regex.matchesWithin_anchored, spans_tagExpression_iff, isReleaseTag_iff]

end Expression

/-- A text is read as a version if it is a tag of numbers of 64 bits. What is written for a version is
read as that version, and it is the one such tag without leading zeros. A release tag is a tag of
runs of decimal digits, which the expression of release tags matches; it has no version if one of
its runs is not of ASCII digits or too great, and there are such tags. -/
theorem tags_exact (t : String) (v : Version) :
    (ofTag? t = some v ↔ ∃ a b c, t = tagOf a b c ∧
      Decimal.Denotes a v.major ∧ Decimal.Denotes b v.minor ∧ Decimal.Denotes c v.patch) ∧
    ofTag? v.tag = some v ∧
    Function.Injective tag ∧
    (t = v.tag ↔ IsPlainTag t ∧ ofTag? t = some v) ∧
    (isReleaseTag t = true ↔
      ∃ a b c, t = tagOf a b c ∧ ∀ s ∈ [a, b, c], IsRun isDecimalDigit s) ∧
    (∃ r, Pattern.Regex.parse? "^v(\\d+)\\.(\\d+)\\.(\\d+)$".toList = some r ∧
      (r.matchesWithin Pattern.wordChars t.toList.toArray = true ↔ isReleaseTag t = true)) ∧
    (ofTag? t = some v → isReleaseTag t = true) ∧
    (isReleaseTag t = true ∧ ofTag? t = none ↔ ∃ a b c, t = tagOf a b c ∧
      (∀ s ∈ [a, b, c], IsRun isDecimalDigit s) ∧
      ∃ s ∈ [a, b, c], ¬ IsRun Char.isDigit s ∨ UInt64.size ≤ Nat.ofDigitChars 10 s 0) ∧
    ∃ u, isReleaseTag u = true ∧ ofTag? u = none := by
  obtain ⟨r, hr, hmatches⟩ := isReleaseTag_iff_matches
  refine ⟨ofTag?_eq_some, ofTag?_tag v, fun _ _ => tag_inj.1, eq_tag_iff, isReleaseTag_iff,
    ⟨r, hr, hmatches t⟩, isReleaseTag_of_ofTag?, ?_, "v18446744073709551616.0.0", ?_⟩
  · simp only [isReleaseTag, Option.isSome_iff_exists, Prod.exists, ← exists_and_right,
      ← and_assoc, ← tagRuns?_eq_some]
    refine exists_congr fun a => exists_congr fun b => exists_congr fun c => ?_
    exact and_congr_right ofTag?_eq_none_of_runs
  · decide +kernel

/-- Digits of other scripts make a release tag, but no version. -/
example : isReleaseTag "v1.٢.3" = true ∧ ofTag? "v1.٢.3" = none := by decide +kernel

end Version

end BuildQueue
