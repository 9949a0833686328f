import BuildQueue.Pattern.Grammar

/-!
# Readers and what stands behind a text

A pattern is read between a group's parentheses, so each reader meets text that is none of the
pattern's. This module says what it is for a reader not to depend on that, and how it follows from
the parts of a reader. `Steady` is about readers that stop before the end of the text, `Exact` also
about those that stop at its end: there only a comment can tell what stands behind, and it hides it.
-/

namespace BuildQueue.Pattern

variable {α β : Type}

/-! ## Cursors with text behind them -/

namespace Cursor

/-- A cursor behind whose text another text stands. -/
def before (c : Cursor) (t : List Char) : Cursor := { c with rest := c.rest ++ t }

@[simp] theorem rest_before (c : Cursor) (t : List Char) : (c.before t).rest = c.rest ++ t := rfl

@[simp] theorem verbose_before (c : Cursor) (t : List Char) : (c.before t).verbose = c.verbose :=
  rfl

@[simp] theorem before_nil (c : Cursor) : c.before [] = c := by
  cases c
  exact congrArg (Cursor.mk · _ _) (List.append_nil _)

/-- A cursor before `d` still has what stands behind `d`. -/
theorem split {e d : Cursor} {t : List Char} (h : (d.before t).rest <:+ e.rest) :
    ∃ e' : Cursor, e = e'.before t ∧ d.rest <:+ e'.rest := by
  obtain ⟨p, hp⟩ := h
  refine ⟨{ e with rest := p ++ d.rest }, ?_, List.suffix_append _ _⟩
  obtain ⟨r, v, n⟩ := e
  exact congrArg (Cursor.mk · v n) (by simpa using hp.symm)

theorem suffix_of_before {e d : Cursor} {t : List Char}
    (h : (d.before t).rest <:+ (e.before t).rest) : d.rest <:+ e.rest := by
  obtain ⟨p, hp⟩ := h
  exact ⟨p, List.append_cancel_right (by simpa using hp)⟩

theorem before_inj {c d : Cursor} {t : List Char} (h : c.before t = d.before t) : c = d := by
  obtain ⟨cr, cv, cn⟩ := c
  obtain ⟨dr, dv, dn⟩ := d
  simpa [before] using h

end Cursor

/-- What may stand behind a pattern: the parenthesis that closes a group around it, or a comment,
and no further line. -/
structure Tail (t : List Char) : Prop where
  line : '\n' ∉ t
  head : ∀ x ∈ t.head?, x = ')' ∨ x = '#'

namespace Tail

theorem nil : Tail [] := ⟨by simp, by simp⟩

theorem comment {t : List Char} (h : '\n' ∉ t) : Tail ('#' :: t) :=
  ⟨by simpa using h, fun x hx => .inr (Option.some.inj hx).symm⟩

theorem cases {t : List Char} (h : Tail t) :
    t = [] ∨ (∃ u, t = ')' :: u) ∨ ∃ u, t = '#' :: u := by
  match t, h.head with
  | [], _ => exact .inl rfl
  | x :: u, h =>
    rcases h x rfl with rfl | rfl
    · exact .inr (.inl ⟨u, rfl⟩)
    · exact .inr (.inr ⟨u, rfl⟩)

theorem head_ne {t : List Char} {x : Char} (h : Tail t) (hp : x ≠ ')') (hc : x ≠ '#') :
    t.head? ≠ some x := fun hx => (h.head x hx).elim hp hc

end Tail

/-! ## How much a reader takes -/

theorem Reader.bind_eq_some {m : Reader α} {f : α → Reader β} {c d : Cursor} {b : β} :
    (m >>= f).run c = some (b, d) ↔
      ∃ a e, m.run c = some (a, e) ∧ (f a).run e = some (b, d) := by
  simp [StateT.run_bind, Option.bind_eq_some_iff]

theorem Reader.bind_eq_none {m : Reader α} {f : α → Reader β} (h : ∀ a d, (f a).run d = none)
    (c : Cursor) : (m >>= f).run c = none := by
  refine Option.eq_none_iff_forall_ne_some.mpr fun ⟨b, d⟩ hd => ?_
  obtain ⟨a, e, -, hrun⟩ := Reader.bind_eq_some.mp hd
  exact nomatch (h a e).symm.trans hrun

/-- A reader leaves an end of what it is given, and takes at least `k` characters if there are
any. -/
def Takes (k : Nat) (m : Reader α) : Prop :=
  ∀ ⦃c a d⦄, m.run c = some (a, d) →
    d.rest <:+ c.rest ∧ (c.rest ≠ [] → d.rest.length + k ≤ c.rest.length)

/-- A reader that fails where nothing is left. -/
def Starved (m : Reader α) : Prop := ∀ ⦃c⦄, c.rest = [] → m.run c = none

/-- A reader that needs a character and takes it. -/
structure Closes (m : Reader α) : Prop where
  takes : Takes 1 m
  starved : Starved m

/-- Where nothing is left, a reader does not change whether blanks are skipped. -/
def Calm (m : Reader α) : Prop :=
  ∀ ⦃c a d⦄, c.rest = [] → m.run c = some (a, d) → d.verbose = c.verbose

namespace Takes

variable {k : Nat} {m : Reader α} {f : α → Reader β}

theorem zero (hm : Takes k m) : Takes 0 m := fun _ _ _ h =>
  ⟨(hm h).1, fun _ => (hm h).1.length_le⟩

theorem pure (a : α) : Takes 0 (Pure.pure a : Reader α) := by
  intro c b d h
  obtain ⟨rfl, rfl⟩ : a = b ∧ c = d := by simpa using h
  exact ⟨List.suffix_refl _, fun _ => Nat.le_refl _⟩

theorem failure : Takes k (failure : Reader α) := fun _ _ _ h => nomatch h

/-- A first part that takes enough. -/
theorem first (hm : Takes k m) (hf : ∀ a, Takes 0 (f a)) : Takes k (m >>= f) := by
  intro c b d h
  obtain ⟨a, e, he, hd⟩ := Reader.bind_eq_some.mp h
  have hle := (hf a hd).1.length_le
  refine ⟨(hf a hd).1.trans (hm he).1, fun hc => ?_⟩
  have := (hm he).2 hc
  omega

/-- A second part that takes enough. -/
theorem second (hk : k ≤ 1) (hm : Takes 0 m) (hf : ∀ a, Takes k (f a)) : Takes k (m >>= f) := by
  intro c b d h
  obtain ⟨a, e, he, hd⟩ := Reader.bind_eq_some.mp h
  refine ⟨(hf a hd).1.trans (hm he).1, fun hc => ?_⟩
  have hle := (hm he).1.length_le
  have hpos := List.length_pos_iff.mpr hc
  by_cases h0 : e.rest = []
  · have := (hf a hd).1.length_le
    simp only [h0, List.length_nil] at this
    omega
  · have := (hf a hd).2 h0
    omega

/-- What is true of a reader that leaves something before a tail. -/
theorem of_before {c e : Cursor} {a : α} {t : List Char} (hm : Takes k m)
    (h : m.run (c.before t) = some (a, e.before t)) :
    e.rest <:+ c.rest ∧ (c.rest ≠ [] → e.rest.length + k ≤ c.rest.length) := by
  refine ⟨Cursor.suffix_of_before (hm h).1, fun hc => ?_⟩
  have := (hm h).2 (by simp [hc])
  simp only [Cursor.rest_before, List.length_append] at this
  omega

/-- A reader that takes something cannot leave all of a tail when it starts there. -/
theorem not_before {c e : Cursor} {a : α} {t : List Char} (hm : Takes 1 m) (hc : c.rest = [])
    (ht : t ≠ []) : m.run (c.before t) ≠ some (a, e.before t) := by
  intro h
  have := (hm h).2 (by simp [ht])
  simp only [Cursor.rest_before, hc, List.length_append, List.length_nil] at this
  omega

end Takes

theorem Starved.bind {m : Reader α} {f : α → Reader β} (hm : Starved m) : Starved (m >>= f) := by
  intro c hc
  simp [StateT.run_bind, hm hc]

theorem Starved.second {m : Reader α} {f : α → Reader β} (ht : Takes 0 m)
    (hf : ∀ a, Starved (f a)) : Starved (m >>= f) := by
  intro c hc
  refine Option.eq_none_iff_forall_ne_some.mpr fun ⟨b, d⟩ h => ?_
  obtain ⟨a, e, he, hd⟩ := Reader.bind_eq_some.mp h
  rw [hf a (List.suffix_nil.mp (hc ▸ (ht he).1))] at hd
  nomatch hd

theorem Starved.calm {m : Reader α} (hm : Starved m) : Calm m := by
  intro c a d hc h
  simp [hm hc] at h

namespace Calm

theorem pure (a : α) : Calm (Pure.pure a : Reader α) := by
  intro c b d _ h
  obtain ⟨rfl, rfl⟩ : a = b ∧ c = d := by simpa using h
  rfl

theorem failure : Calm (failure : Reader α) := fun _ _ _ _ h => nomatch h

theorem bind {m : Reader α} {f : α → Reader β} (hm : Calm m) (ht : Takes 0 m)
    (hf : ∀ a, Calm (f a)) : Calm (m >>= f) := by
  intro c b d hc h
  obtain ⟨a, e, he, hd⟩ := Reader.bind_eq_some.mp h
  have he0 : e.rest = [] := List.suffix_nil.mp (hc ▸ (ht he).1)
  rw [hf a he0 hd, hm hc he]

end Calm

/-! ## Readers that do not look behind -/

/-- A reader for which nothing depends on what stands behind, if there are `s` characters. -/
def Plain (s : Nat) (m : Reader α) : Prop :=
  ∀ ⦃c t⦄, s ≤ c.rest.length → Tail t →
    m.run (c.before t) = (m.run c).map fun p => (p.1, p.2.before t)

/-- Two readers that agree where something is left. They differ in their fuel; that of the second
has to suffice for texts of `N` characters. -/
def Steady (N : Nat) (m m' : Reader α) : Prop :=
  ∀ ⦃c d : Cursor⦄ ⦃a : α⦄ ⦃y z : List Char⦄, c.rest.length ≤ N → Tail y → Tail z → d.rest ≠ [] →
    m.run (c.before y) = some (a, d.before y) → m'.run (c.before z) = some (a, d.before z)

/-- Whatever stands behind has become part of a comment. The comment begins behind the text, or in
its last line behind a part of at least `s` characters that is read alike. -/
structure Swallowed (s : Nat) (m : Reader α) (c : Cursor) (a : α) (d : Cursor) (t : List Char) :
    Prop where
  verbose : d.verbose = true
  run : m.run (c.before t) = some (a, d)
  comment : t.head? = some '#' ∨
    ∃ p q, c.rest = p ++ '#' :: q ∧ s ≤ p.length ∧ '\n' ∉ q ∧
      m.run { c with rest := p } = some (a, d)

/-- Two readers that agree, also where nothing is left. At the end, text behind is left as it is
unless it is swallowed; a comment behind has to be meant as one. At least `s` characters are
given. -/
structure Exact (s N : Nat) (m m' : Reader α) : Prop where
  steady : Steady N m m'
  retract : ∀ ⦃c d a t⦄, s ≤ c.rest.length → c.rest.length ≤ N → Tail t → d.rest = [] →
    m.run (c.before t) = some (a, d.before t) → m'.run c = some (a, d)
  extend : ∀ ⦃c d a t⦄, s ≤ c.rest.length → c.rest.length ≤ N → Tail t →
    (t.head? = some '#' → d.verbose = true) → d.rest = [] → m.run c = some (a, d) →
    m'.run (c.before t) = some (a, d.before t) ∨ Swallowed s m' c a d t

section

variable {k s N : Nat} {m m' : Reader α} {f f' : α → Reader β}

theorem Plain.run (hm : Plain s m) {c d : Cursor} {a : α} {t : List Char} (hc : s ≤ c.rest.length)
    (ht : Tail t) (h : m.run c = some (a, d)) : m.run (c.before t) = some (a, d.before t) := by
  rw [hm hc ht, h]
  rfl

/-- Whatever is read with a tail behind is read without it. -/
theorem Plain.exists_run (hm : Plain s m) {c e : Cursor} {a : α} {t : List Char}
    (hc : s ≤ c.rest.length) (ht : Tail t) (h : m.run (c.before t) = some (a, e)) :
    ∃ d, e = d.before t ∧ m.run c = some (a, d) := by
  rw [hm hc ht] at h
  obtain ⟨⟨b, d⟩, hd, he⟩ := Option.map_eq_some_iff.mp h
  obtain ⟨rfl, rfl⟩ : b = a ∧ d.before t = e := by simpa using he
  exact ⟨d, rfl, hd⟩

theorem Steady.mono {M : Nat} (hm : Steady N m m') (h : M ≤ N) : Steady M m m' :=
  fun _ _ _ _ _ hc => hm (Nat.le_trans hc h)

theorem Exact.mono {M : Nat} (hm : Exact s N m m') (hM : M ≤ N) : Exact s M m m' where
  steady := hm.steady.mono hM
  retract _ _ _ _ hs hc := hm.retract hs (Nat.le_trans hc hM)
  extend _ _ _ _ hs hc := hm.extend hs (Nat.le_trans hc hM)

/-- What needs a character is given one. -/
theorem Exact.of_starved (hm : Exact 0 N m m') (hs : Starved m') : Exact 1 N m m' where
  steady := hm.steady
  retract _ _ _ _ _ hc := hm.retract (Nat.zero_le _) hc
  extend _ _ _ _ _ hc ht hv hd h := by
    refine (hm.extend (Nat.zero_le _) hc ht hv hd h).imp id fun hsw =>
      ⟨hsw.verbose, hsw.run, hsw.comment.imp id ?_⟩
    rintro ⟨p, q, hpq, -, hq, hp⟩
    refine ⟨p, q, hpq, List.length_pos_iff.mpr ?_, hq, hp⟩
    rintro rfl
    exact nomatch hp.symm.trans (hs rfl)

/-- What is read with a tail behind is read without it, wherever the reader stops. -/
theorem Exact.retract' (hm : Exact s N m m') {c d : Cursor} {a : α} {t : List Char}
    (hs : s ≤ c.rest.length) (hc : c.rest.length ≤ N) (ht : Tail t)
    (h : m.run (c.before t) = some (a, d.before t)) : m'.run c = some (a, d) := by
  by_cases h0 : d.rest = []
  · exact hm.retract hs hc ht h0 h
  · simpa using hm.steady hc ht .nil h0 h

theorem Steady.bind (hm : Steady N m m') (ht : Takes k m) (hf : ∀ a, Takes 0 (f a))
    (h : ∀ a M, M + k ≤ N → Steady M (f a) (f' a)) : Steady N (m >>= f) (m' >>= f') := by
  intro c d b y z hc hy hz hd hrun
  obtain ⟨a, e, he, hrest⟩ := Reader.bind_eq_some.mp hrun
  obtain ⟨e, rfl, hde⟩ := Cursor.split (hf a hrest).1
  have he0 : e.rest ≠ [] := fun h0 => hd (List.suffix_nil.mp (h0 ▸ hde))
  have hlen := (ht.of_before he).2 fun h0 => he0 (List.suffix_nil.mp (h0 ▸ (ht.of_before he).1))
  exact Reader.bind_eq_some.mpr ⟨a, e.before z, hm hc hy hz he0 he,
    h a e.rest.length (by omega) (Nat.le_refl _) hy hz hd hrest⟩

/-- The text before a comment, given that a reader stops before the comment. -/
theorem Takes.uncomment (ht : Takes k m) {c e : Cursor} {a : α} {p q : List Char}
    (he : m.run c = some (a, e)) (hpq : e.rest = p ++ '#' :: q) :
    ∃ l, k ≤ l.length ∧ l.length ≤ c.rest.length ∧ c.rest = l ++ '#' :: q ∧
      m.run (Cursor.before { c with rest := l } ('#' :: q)) =
        some (a, Cursor.before { e with rest := p } ('#' :: q)) := by
  obtain ⟨⟨l, hl⟩, hlen⟩ := ht he
  obtain ⟨cr, cv, cn⟩ := c
  obtain ⟨er, ev, en⟩ := e
  obtain rfl : er = p ++ '#' :: q := hpq
  obtain rfl : l ++ (p ++ '#' :: q) = cr := hl
  simp only [ne_eq, List.append_eq_nil_iff, List.cons_ne_nil, and_false, not_false_eq_true,
    List.length_append, List.length_cons, true_implies] at hlen
  refine ⟨l ++ p, by simp only [List.length_append]; omega, by simp, by simp, ?_⟩
  simpa [Cursor.before] using he

/-- What a reader swallows stays swallowed when the reader is followed by another one. -/
theorem Swallowed.first {c e d : Cursor} {a : α} {b : β} {t : List Char}
    (h : Swallowed s m' c a e t) (hrun : (f' a).run e = some (b, d)) (hv : d.verbose = e.verbose) :
    Swallowed s (m' >>= f') c b d t where
  verbose := hv ▸ h.verbose
  run := Reader.bind_eq_some.mpr ⟨a, e, h.run, hrun⟩
  comment := by
    refine h.comment.imp id ?_
    rintro ⟨p, q, hpq, hs, hq, hp⟩
    exact ⟨p, q, hpq, hs, hq, Reader.bind_eq_some.mpr ⟨a, e, hp, hrun⟩⟩

/-- A comment that begins in the second part of a reader begins in the whole of it, given that the
first part reads what is before the comment alike. -/
theorem Swallowed.second (ht : Takes k m) {c e d : Cursor} {a : α} {b : β} {t : List Char}
    (he : m.run c = some (a, e)) (hm : m'.run (c.before t) = some (a, e.before t))
    (hback : ∀ ⦃l p q : List Char⦄, k ≤ l.length → l.length ≤ c.rest.length → s ≤ p.length →
      Tail ('#' :: q) → m.run (Cursor.before { c with rest := l } ('#' :: q)) =
        some (a, Cursor.before { e with rest := p } ('#' :: q)) →
      m'.run { c with rest := l } = some (a, { e with rest := p }))
    (h : Swallowed s (f' a) e b d t) : Swallowed k (m' >>= f') c b d t where
  verbose := h.verbose
  run := Reader.bind_eq_some.mpr ⟨a, _, hm, h.run⟩
  comment := by
    refine h.comment.imp id ?_
    rintro ⟨p, q, hpq, hp, hq, hrun⟩
    obtain ⟨l, hk, hlc, hl, hl'⟩ := ht.uncomment he hpq
    exact ⟨l, q, hl, hk, hq,
      Reader.bind_eq_some.mpr ⟨a, _, hback hk hlc hp (.comment hq) hl', hrun⟩⟩

/-- A steady reader before one that needs more. -/
theorem Exact.of_steady (hm : Steady N m m') (ht : Takes k m) (hf : ∀ a, Closes (f a))
    (hf' : ∀ a, Starved (f' a)) (h : ∀ a M, M + k ≤ N → Exact 0 M (f a) (f' a)) :
    Exact 0 N (m >>= f) (m' >>= f') where
  steady := hm.bind ht (fun a => (hf a).takes.zero) fun a M hM => (h a M hM).steady
  retract c d b t _ hc htail hd hrun := by
    obtain ⟨a, e, he, hrest⟩ := Reader.bind_eq_some.mp hrun
    obtain ⟨e, rfl, -⟩ := Cursor.split ((hf a).takes hrest).1
    have he0 : e.rest ≠ [] := by
      intro h0
      by_cases ht0 : t = []
      · simp [(hf a).starved (c := e.before t) (by simp [h0, ht0])] at hrest
      · exact (hf a).takes.not_before h0 ht0 hrest
    have hlen := (ht.of_before he).2 fun h0 => he0 (List.suffix_nil.mp (h0 ▸ (ht.of_before he).1))
    have hm' : m'.run (c.before []) = some (a, e.before []) := hm hc htail .nil he0 he
    simp only [Cursor.before_nil] at hm'
    exact Reader.bind_eq_some.mpr ⟨a, e, hm',
      (h a e.rest.length (by omega)).retract (Nat.zero_le _) (Nat.le_refl _) htail hd hrest⟩
  extend c d b t _ hc htail hv hd hrun := by
    obtain ⟨a, e, he, hrest⟩ := Reader.bind_eq_some.mp hrun
    have he0 : e.rest ≠ [] := fun h0 => by simp [(hf a).starved h0] at hrest
    have hlen := (ht he).2 fun h0 => he0 (List.suffix_nil.mp (h0 ▸ (ht he).1))
    have hm' : m'.run (c.before t) = some (a, e.before t) :=
      hm hc .nil htail he0 (by simpa using he)
    have hmore := (h a e.rest.length (by omega)).of_starved (hf' a)
    rcases hmore.extend (List.length_pos_iff.mpr he0) (Nat.le_refl _) htail hv hd hrest with hr | hs
    · exact .inl (Reader.bind_eq_some.mpr ⟨a, _, hm', hr⟩)
    · refine .inr (.second ht.zero he hm' (fun l p q _ hlc hp0 hq hl => ?_) hs)
      have hp0 : p ≠ [] := List.ne_nil_of_length_pos hp0
      simpa using hm (Nat.le_trans hlc hc) hq .nil hp0 hl

/-- An exact reader before one that may find nothing left. -/
theorem Exact.bind (hm : Exact k N m m') (ht : Takes k m) (hf : ∀ a, Takes 0 (f a))
    (hcalm : ∀ a, Calm (f a)) (h : ∀ a M, M + k ≤ N → Exact 0 M (f a) (f' a)) :
    Exact k N (m >>= f) (m' >>= f') where
  steady := hm.steady.bind ht hf fun a M hM => (h a M hM).steady
  retract c d b t hs hc htail hd hrun := by
    obtain ⟨a, e, he, hrest⟩ := Reader.bind_eq_some.mp hrun
    obtain ⟨e, rfl, -⟩ := Cursor.split (hf a hrest).1
    have hlen : e.rest.length + k ≤ N := by
      by_cases h0 : c.rest = []
      · have := (ht.of_before he).1.length_le
        simp only [h0, List.length_nil] at this hs
        omega
      · have := (ht.of_before he).2 h0
        omega
    exact Reader.bind_eq_some.mpr ⟨a, e, hm.retract' hs hc htail he,
      (h a e.rest.length hlen).retract (Nat.zero_le _) (Nat.le_refl _) htail hd hrest⟩
  extend c d b t hs hc htail hv hd hrun := by
    obtain ⟨a, e, he, hrest⟩ := Reader.bind_eq_some.mp hrun
    have hlen : e.rest.length + k ≤ N := by
      have := (ht he).1.length_le
      by_cases h0 : c.rest = []
      · simp only [h0, List.length_nil] at this hs
        omega
      · have := (ht he).2 h0
        omega
    have hmore := h a e.rest.length hlen
    have hfirst : m'.run (c.before t) = some (a, e.before t) ∨
        Swallowed k m' c a e t ∧ d.verbose = e.verbose := by
      by_cases h0 : e.rest = []
      · have hv' : d.verbose = e.verbose := hcalm a h0 hrest
        exact (hm.extend hs hc htail (fun hh => hv' ▸ hv hh) h0 he).imp id fun hsw => ⟨hsw, hv'⟩
      · exact .inl (hm.steady hc .nil htail h0 (by simpa using he))
    rcases hfirst with he' | ⟨hsw, hv'⟩
    · rcases hmore.extend (Nat.zero_le _) (Nat.le_refl _) htail hv hd hrest with hr | hsw
      · exact .inl (Reader.bind_eq_some.mpr ⟨a, _, he', hr⟩)
      · exact .inr (.second ht he he' (fun l p q hk hlc _ hq =>
          hm.retract' hk (Nat.le_trans hlc hc) hq) hsw)
    · have hrest' := hmore.retract (t := []) (Nat.zero_le _) (Nat.le_refl _) .nil hd
        (by simpa using hrest)
      exact .inr (hsw.first hrest' hv')

theorem Exact.pure (a : α) : Exact s N (Pure.pure a : Reader α) (Pure.pure a) where
  steady c d b y z _ _ _ hd h := by
    obtain ⟨rfl, he⟩ : a = b ∧ c.before y = d.before y := by simpa using h
    rw [Cursor.before_inj he]
    rfl
  retract c d b t _ _ _ _ h := by
    obtain ⟨rfl, he⟩ : a = b ∧ c.before t = d.before t := by simpa using h
    rw [Cursor.before_inj he]
    rfl
  extend c d b t _ _ _ _ _ h := by
    obtain ⟨rfl, rfl⟩ : a = b ∧ c = d := by simpa using h
    exact .inl rfl

theorem Exact.failure : Exact s N (failure : Reader α) m' where
  steady _ _ _ _ _ _ _ _ _ h := nomatch h
  retract _ _ _ _ _ _ _ _ h := nomatch h
  extend _ _ _ _ _ _ _ _ _ h := nomatch h

theorem Steady.pure (a : α) : Steady N (Pure.pure a : Reader α) (Pure.pure a) :=
  (Exact.pure (s := 0) a).steady

theorem Steady.failure : Steady N (failure : Reader α) m' := fun _ _ _ _ _ _ _ _ _ h => nomatch h

/-- A reader that does not look behind before an exact one. -/
theorem Exact.plain_bind (hm : Plain k m) (ht : Takes k m) (hf : ∀ a, Takes 0 (f a))
    (h : ∀ ⦃c a d⦄, k ≤ c.rest.length → c.rest.length ≤ N → m.run c = some (a, d) →
      Exact 0 d.rest.length (f a) (f' a)) :
    Exact k N (m >>= f) (m >>= f') where
  steady c d b y z hc hy hz hd hrun := by
    obtain ⟨a, e, he, hrest⟩ := Reader.bind_eq_some.mp hrun
    obtain ⟨e, rfl, hde⟩ := Cursor.split (hf a hrest).1
    have he0 : e.rest ≠ [] := fun h0 => hd (List.suffix_nil.mp (h0 ▸ hde))
    have hlen := (ht.of_before he).2 fun h0 =>
      he0 (List.suffix_nil.mp (h0 ▸ (ht.of_before he).1))
    have hk : k ≤ c.rest.length := by omega
    obtain ⟨e', hee, he'⟩ := hm.exists_run hk hy he
    obtain rfl := Cursor.before_inj hee
    exact Reader.bind_eq_some.mpr ⟨a, _, hm.run hk hz he',
      (h hk hc he').steady (Nat.le_refl _) hy hz hd hrest⟩
  retract c d b t hk hc htail hd hrun := by
    obtain ⟨a, e, he, hrest⟩ := Reader.bind_eq_some.mp hrun
    obtain ⟨e, rfl, he'⟩ := hm.exists_run hk htail he
    exact Reader.bind_eq_some.mpr ⟨a, e, he',
      (h hk hc he').retract (Nat.zero_le _) (Nat.le_refl _) htail hd hrest⟩
  extend c d b t hk hc htail hv hd hrun := by
    obtain ⟨a, e, he, hrest⟩ := Reader.bind_eq_some.mp hrun
    have he' := hm.run hk htail he
    rcases (h hk hc he).extend (Nat.zero_le _) (Nat.le_refl _) htail hv hd hrest with hr | hsw
    · exact .inl (Reader.bind_eq_some.mpr ⟨a, _, he', hr⟩)
    · refine .inr (.second ht he he' (fun l p q hkl _ _ hq hl => ?_) hsw)
      obtain ⟨e', hee, hl⟩ := hm.exists_run hkl hq hl
      obtain rfl := Cursor.before_inj hee
      exact hl

/-- A reader that takes at least `k` characters and, where it leaves some, depends on nothing
behind. -/
structure Stable (k : Nat) (m : Reader α) : Prop where
  takes : Takes k m
  steady : ∀ N, Steady N m m

/-- A reader that need not take anything, and depends on nothing behind. -/
structure Still (m : Reader α) : Prop where
  takes : Takes 0 m
  calm : Calm m
  exact : ∀ N, Exact 0 N m m

/-- A reader that takes a character that it is given, and depends on nothing behind. -/
structure Token (m : Reader α) : Prop where
  takes : Takes 1 m
  exact : ∀ N, Exact 1 N m m

/-- A reader that needs a character, takes it and depends on nothing behind. -/
structure Whole (m : Reader α) : Prop extends Closes m where
  exact : ∀ N, Exact 0 N m m

theorem Closes.still (hm : Closes m) (h : ∀ N, Exact 0 N m m) : Still m :=
  ⟨hm.takes.zero, hm.starved.calm, h⟩

theorem Whole.still (hm : Whole m) : Still m := hm.toCloses.still hm.exact

theorem Whole.token (hm : Whole m) : Token m :=
  ⟨hm.takes, fun N => (hm.exact N).of_starved hm.starved⟩

theorem Still.stable (hm : Still m) : Stable 0 m := ⟨hm.takes, fun N => (hm.exact N).steady⟩

theorem Token.stable (hm : Token m) : Stable 1 m := ⟨hm.takes, fun N => (hm.exact N).steady⟩

theorem Stable.zero (hm : Stable k m) : Stable 0 m := ⟨hm.takes.zero, hm.steady⟩

theorem Stable.pure (a : α) : Stable 0 (Pure.pure a : Reader α) := ⟨.pure a, fun _ => .pure a⟩

theorem Stable.failure : Stable k (failure : Reader α) := ⟨.failure, fun _ => .failure⟩

theorem Stable.bind (hm : Stable k m) (hf : ∀ a, Stable 0 (f a)) : Stable k (m >>= f) :=
  ⟨hm.takes.first fun a => (hf a).takes,
    fun N => (hm.steady N).bind hm.takes (fun a => (hf a).takes) fun a M _ => (hf a).steady M⟩

theorem Still.pure (a : α) : Still (Pure.pure a : Reader α) := ⟨.pure a, .pure a, fun _ => .pure a⟩

theorem Still.failure : Still (failure : Reader α) := ⟨.failure, .failure, fun _ => .failure⟩

theorem Token.failure : Token (failure : Reader α) := ⟨.failure, fun _ => .failure⟩

theorem Exact.still (hm : Exact k N m m') (ht : Takes k m) (hf : ∀ a, Still (f a)) :
    Exact k N (m >>= f) (m' >>= f) :=
  hm.bind ht (fun a => (hf a).takes) (fun a => (hf a).calm) fun a M _ => (hf a).exact M

theorem Still.bind (hm : Still m) (hf : ∀ a, Still (f a)) : Still (m >>= f) :=
  ⟨hm.takes.first fun a => (hf a).takes, hm.calm.bind hm.takes fun a => (hf a).calm,
    fun N => (hm.exact N).still hm.takes hf⟩

theorem Token.bind (hm : Token m) (hf : ∀ a, Still (f a)) : Token (m >>= f) :=
  ⟨hm.takes.first fun a => (hf a).takes, fun N => (hm.exact N).still hm.takes hf⟩

theorem Whole.bind (hm : Whole m) (hf : ∀ a, Still (f a)) : Whole (m >>= f) :=
  ⟨⟨hm.takes.first fun a => (hf a).takes, hm.starved.bind⟩,
    fun N => (hm.exact N).still hm.takes.zero hf⟩

/-- A stable reader before one that needs more. -/
theorem Stable.whole (hm : Stable k m) (hs : Starved m) (hf : ∀ a, Whole (f a)) :
    Whole (m >>= f) where
  takes := .second (Nat.le_refl 1) hm.takes.zero fun a => (hf a).takes
  starved := hs.bind
  exact N := .of_steady (hm.steady N) hm.takes (fun a => (hf a).toCloses)
    (fun a => (hf a).starved) fun a M _ => (hf a).exact M

end

end BuildQueue.Pattern
