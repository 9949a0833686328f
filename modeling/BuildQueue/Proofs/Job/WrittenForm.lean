import BuildQueue.Proofs.Except
import BuildQueue.Proofs.Job.Key
import Mathlib.Tactic.MkIffOfInductiveProp

/-!
# The written form of a key is exact

A key is read from many lines, since a percent form has many spellings and a commit is read in
either case; it is written as one of them (`text_eq_iff`). What a reader accepts, `Reads`, gives both
directions field by field.
-/

namespace BuildQueue

namespace CommitId

theorem toNat_lt_of_digit? {c : Char} {d : Fin 16} (h : Text.Hex.digit? c = some d) :
    c.toNat < 128 := by
  unfold Text.Hex.digit? at h
  split at h
  · omega
  · split at h
    · omega
    · split at h
      · omega
      · cases h

/-- A digit is written as it was read unless it was an uppercase letter. -/
theorem lower_eq_iff {c : Char} {d : Fin 16} (h : Text.Hex.digit? c = some d) :
    Text.Hex.lower d = c ↔ c.isUpper = false := by
  have hall : ∀ (n : Fin 128) (d : Fin 16), Text.Hex.digit? (Char.ofNat n) = some d →
      (Text.Hex.lower d = Char.ofNat n ↔ (Char.ofNat n).isUpper = false) := by
    decide +kernel
  have hc := hall ⟨c.toNat, toNat_lt_of_digit? h⟩ d
  simp only [Char.ofNat_toNat] at hc
  exact hc h

theorem chars_eq_iff {s : List Char} {digits : List (Fin 16)}
    (h : s.mapM Text.Hex.digit? = some digits) :
    digits.map Text.Hex.lower = s ↔ ∀ c ∈ s, c.isUpper = false := by
  induction s generalizing digits with
  | nil =>
    obtain rfl := Option.some.inj h
    simp
  | cons c s ih =>
    rw [List.mapM_cons] at h
    obtain ⟨d, hd, h⟩ := Option.bind_eq_some_iff.1 h
    obtain ⟨ds, hds, h⟩ := Option.bind_eq_some_iff.1 h
    obtain rfl := Option.some.inj h
    rw [List.map_cons, List.cons.injEq, lower_eq_iff hd, ih hds, List.forall_mem_cons]

/-- A commit is written as it was read if it was read in lowercase. -/
theorem text_eq_iff {s : String} {commit : CommitId} (h : parse s = .ok commit) :
    commit.text = s ↔ ∀ c ∈ s.toList, c.isUpper = false := by
  unfold parse ofChars? at h
  cases hd : s.toList.mapM Text.Hex.digit? with
  | none => rw [hd] at h; cases h
  | some digits =>
    simp only [hd] at h
    split at h
    · next hc =>
      split at hc
      · obtain rfl := Option.some.inj hc
        obtain rfl := Except.ok.inj h
        rw [text, chars, ← chars_eq_iff hd, ← String.toList_inj, String.toList_ofList]
      · cases hc
    · cases h

end CommitId

namespace JobKey

open Text.Percent (Canonical encode encode_eq_iff)

/-- The parts of a line. -/
def parts (s : String) : List String := (Text.Fields.split separator s.toList).map String.ofList

/-- The parts of a line and the key they are read as. -/
inductive Reads : List String → JobKey → Prop
  | update {id path change target hash : String} {source : Source} {u t : String}
      {commit : CommitId} (hid : decodeField id = .ok source.id)
      (hpath : decodeField path = .ok source.path) (hchange : decodeField change = .ok u)
      (htarget : decodeField target = .ok t) (hcommit : CommitId.parse hash = .ok commit) :
      Reads [id, path, "update", change, target, hash] ⟨source, .update u t, commit⟩
  | branch {id path name hash : String} {source : Source} {b : String} {commit : CommitId}
      (hid : decodeField id = .ok source.id) (hpath : decodeField path = .ok source.path)
      (hname : decodeField name = .ok b) (hcommit : CommitId.parse hash = .ok commit) :
      Reads [id, path, "branch", name, hash] ⟨source, .branch b, commit⟩

section Success

variable {α β γ : Type} {x : Except ParseError α} {y : Except ParseError β}

theorem map_eq_ok {f : α → β} {b : β} (h : f <$> x = .ok b) : ∃ a, x = .ok a ∧ f a = b := by
  cases x with
  | error e => cases h
  | ok a => exact ⟨a, rfl, Except.ok.inj h⟩

theorem map₂_eq_ok {f : α → β → γ} {c : γ} (h : f <$> x <*> y = .ok c) :
    ∃ a b, x = .ok a ∧ y = .ok b ∧ f a b = c := by
  cases x with
  | error e => cases h
  | ok a =>
    cases y with
    | error e => cases h
    | ok b => exact ⟨a, b, rfl, rfl, Except.ok.inj h⟩

end Success

/-- What is read as a key has the parts of one. -/
theorem reads_of_parse {s : String} {k : JobKey} (h : parse s = .ok k) : Reads (parts s) k := by
  unfold parse at h
  rw [← parts] at h
  split at h
  · next id path rest hparts =>
    rw [hparts]
    split at h
    · cases h
    obtain ⟨source, hsource, h⟩ := Except.bind_eq_ok.1 h
    obtain ⟨⟨ref, commit⟩, href, h⟩ := Except.bind_eq_ok.1 h
    obtain rfl := Except.ok.inj h
    obtain ⟨i, p, hid, hpath, rfl⟩ := map₂_eq_ok hsource
    unfold parseRef at href
    split at href
    · obtain ⟨ref', href', h⟩ := Except.bind_eq_ok.1 href
      obtain ⟨commit', hcommit, h⟩ := Except.bind_eq_ok.1 h
      obtain ⟨u, t, hchange, htarget, rfl⟩ := map₂_eq_ok href'
      cases h
      exact .update hid hpath hchange htarget hcommit
    · obtain ⟨ref', href', h⟩ := Except.bind_eq_ok.1 href
      obtain ⟨commit', hcommit, h⟩ := Except.bind_eq_ok.1 h
      obtain ⟨b, hname, rfl⟩ := map_eq_ok href'
      cases h
      exact .branch hid hpath hname hcommit
    · split at href <;> cases href
    · cases href
  · cases h

/-- Two lines with the same parts are the same line. -/
theorem parts_inj {s t : String} (h : parts s = parts t) : s = t := by
  have hl : Text.Fields.split separator s.toList = Text.Fields.split separator t.toList :=
    List.map_inj_right (fun _ _ => String.ofList_inj.1) |>.1 h
  rw [← String.toList_inj, ← Text.Fields.join_split separator s.toList, hl,
    Text.Fields.join_split]

theorem parts_text (k : JobKey) : parts k.text = k.fields := k.split_text

/-- The parts in which a writer has a choice: all but the kind and the commit. -/
def freeParts (s : String) : List String := ((parts s).eraseIdx 2).dropLast

/-- A line in its one normal spelling. -/
@[mk_iff]
structure Normal (s : String) : Prop where
  free : ∀ part ∈ freeParts s, Canonical part.toList
  commit : ∀ hash ∈ (parts s).getLast?, ∀ c ∈ hash.toList, c.isUpper = false

theorem encode_eq_iff_of_decodeField {part t : String} (h : decodeField part = .ok t) :
    encode t = part ↔ Canonical part.toList := by
  rw [decodeField] at h
  cases hd : Text.Percent.decode part with
  | error fault => rw [hd] at h; cases h
  | ok t' =>
    rw [hd] at h
    obtain rfl := Except.ok.inj h
    exact encode_eq_iff hd

/-- Of the lines that are read as a key, the normal one is the key's own. -/
theorem text_eq_iff {s : String} {k : JobKey} (h : parse s = .ok k) : k.text = s ↔ Normal s := by
  have hr := reads_of_parse h
  have hparts : k.text = s ↔ k.fields = parts s := by
    rw [← parts_text]
    exact ⟨congrArg parts, parts_inj⟩
  rw [hparts, normal_iff, freeParts]
  generalize parts s = line at hr
  cases hr with
  | update hid hpath hchange htarget hcommit =>
    simp only [fields, JobRef.kind, RefKind.tag, List.cons.injEq, and_true, true_and,
      encode_eq_iff_of_decodeField hid, encode_eq_iff_of_decodeField hpath,
      encode_eq_iff_of_decodeField hchange, encode_eq_iff_of_decodeField htarget,
      CommitId.text_eq_iff hcommit]
    simp [and_assoc]
  | branch hid hpath hname hcommit =>
    simp only [fields, JobRef.kind, RefKind.tag, List.cons.injEq, and_true, true_and,
      encode_eq_iff_of_decodeField hid, encode_eq_iff_of_decodeField hpath,
      encode_eq_iff_of_decodeField hname, CommitId.text_eq_iff hcommit]
    simp [and_assoc]

/-- Reads a line as a key and writes the key again. -/
def normalize (s : String) : Except ParseError String := (parse s).map text

theorem normalize_eq {s : String} {k : JobKey} (h : parse s = .ok k) : normalize s = .ok k.text := by
  rw [normalize, h]
  rfl

/-- Writing and reading are inverse to each other up to spelling. Every key is read back in all its
fields, so two keys have one line only if they are equal, and none is written both for an update and
for a branch. A line that is read at all is brought to normal form at once, and is left alone exactly
if it was in it. -/
theorem written_form_exact :
    (∀ k : JobKey, parse k.text = .ok k) ∧
    (∀ a b : JobKey, a.text = b.text → a = b) ∧
    (∀ a b : JobKey, a.ref.kind = .update → b.ref.kind = .branch → a.text ≠ b.text) ∧
    ∀ s : String, (parse s).isOk = true →
      ∃ t, normalize s = .ok t ∧ normalize t = .ok t ∧ (t = s ↔ Normal s) := by
  refine ⟨parse_text, fun a b => text_inj, fun a b ha hb h => ?_, fun s hs => ?_⟩
  · rw [text_inj h, hb] at ha
    cases ha
  · cases h : parse s with
    | error e => rw [h] at hs; cases hs
    | ok k => exact ⟨k.text, normalize_eq h, normalize_eq k.parse_text, text_eq_iff h⟩

/-- A line with a lowercase escape and an uppercase commit is read, and is spelled otherwise when it
is written. -/
theorem written_form_exact_respelled :
    normalize "gh:acme%2fapp:branch:main:ABCDEF0123456789ABCDEF0123456789ABCDEF01" =
      .ok "gh:acme%2Fapp:branch:main:abcdef0123456789abcdef0123456789abcdef01" ∧
    ¬ Normal "gh:acme%2fapp:branch:main:ABCDEF0123456789ABCDEF0123456789ABCDEF01" := by
  have hread : (parse
      "gh:acme%2fapp:branch:main:ABCDEF0123456789ABCDEF0123456789ABCDEF01").isOk = true := by
    decide +kernel
  have hspelled : (normalize
      "gh:acme%2fapp:branch:main:ABCDEF0123456789ABCDEF0123456789ABCDEF01").toOption =
      some "gh:acme%2Fapp:branch:main:abcdef0123456789abcdef0123456789abcdef01" := by
    decide +kernel
  obtain ⟨t, ht, -, hnormal⟩ := written_form_exact.2.2.2 _ hread
  rw [ht] at hspelled
  obtain rfl := Option.some.inj hspelled
  exact ⟨ht, fun hn => absurd (hnormal.2 hn) (by decide +kernel)⟩

end JobKey

end BuildQueue
