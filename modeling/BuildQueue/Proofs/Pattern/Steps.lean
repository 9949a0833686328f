import BuildQueue.Proofs.Pattern.Reader

/-!
# The small readers and what stands behind a text

For each of the readers that the others are made of: how much it takes, and that it does not depend
on what stands behind. Only skipping blanks meets a comment.
-/

namespace BuildQueue.Pattern

open Reader

variable {α β : Type} {k s N : Nat}

/-! ## Blanks and comments -/

namespace Reader

theorem afterBlanks_suffix (inComment : Bool) (l : List Char) : afterBlanks inComment l <:+ l := by
  induction l generalizing inComment with
  | nil => exact List.suffix_refl _
  | cons x l ih =>
    unfold afterBlanks
    split
    · exact (ih _).trans (List.suffix_cons x l)
    · split
      · exact (ih _).trans (List.suffix_cons x l)
      · split
        · exact (ih _).trans (List.suffix_cons x l)
        · exact List.suffix_refl _

/-- A comment hides the rest of its line. -/
theorem afterBlanks_comment {t : List Char} (h : '\n' ∉ t) : afterBlanks true t = [] := by
  induction t with
  | nil => rfl
  | cons x t ih =>
    simp only [List.mem_cons, not_or] at h
    simpa [afterBlanks, Ne.symm h.1] using ih h.2

theorem afterBlanks_tail {t : List Char} (ht : Tail t) :
    afterBlanks false t = if t.head? = some '#' then [] else t := by
  rcases ht.cases with rfl | ⟨u, rfl⟩ | ⟨u, rfl⟩
  · rfl
  · have : isBlank ')' = false := by decide
    simp [afterBlanks, this]
  · have := ht.line
    simp only [List.mem_cons, not_or] at this
    simp [afterBlanks, afterBlanks_comment this.2]

theorem afterBlanks_append {inComment : Bool} {l t : List Char} (h : afterBlanks inComment l ≠ []) :
    afterBlanks inComment (l ++ t) = afterBlanks inComment l ++ t := by
  induction l generalizing inComment with
  | nil => exact absurd rfl h
  | cons x l ih =>
    rw [List.cons_append, afterBlanks, afterBlanks]
    rw [afterBlanks] at h
    split at h <;> rename_i h1
    · simpa [h1] using ih h
    · split at h <;> rename_i h2
      · simpa [h1, h2] using ih h
      · split at h <;> rename_i h3
        · simpa [h1, h2, h3] using ih h
        · simp [h1, h2, h3]

/-- Where only blanks and comments are left, text behind is left too, unless it is in a comment:
one that it begins, one that was there before, or one that begins in the last line. -/
theorem afterBlanks_append_of_nil {inComment : Bool} {l t : List Char}
    (h : afterBlanks inComment l = []) (ht : Tail t) :
    t.head? ≠ some '#' ∧ afterBlanks inComment (l ++ t) = t ∨
      afterBlanks inComment (l ++ t) = [] ∧ (t.head? = some '#' ∨ inComment = true ∧ '\n' ∉ l ∨
        ∃ p q, l = p ++ '#' :: q ∧ '\n' ∉ q ∧ afterBlanks inComment p = []) := by
  induction l generalizing inComment with
  | nil =>
    cases inComment with
    | true => exact .inr ⟨afterBlanks_comment ht.line, .inr (.inl ⟨rfl, by simp⟩)⟩
    | false =>
      rw [List.nil_append, afterBlanks_tail ht]
      by_cases hh : t.head? = some '#'
      · exact .inr ⟨if_pos hh, .inl hh⟩
      · exact .inl ⟨hh, if_neg hh⟩
  | cons x l ih =>
    -- The comment that follows from `ih` begins one character further on.
    have step {b : Bool} (hb : ∀ r, afterBlanks inComment (x :: r) = afterBlanks b r)
        (hin : b = true → '\n' ∉ l →
          inComment = true ∧ '\n' ∉ x :: l ∨ inComment = false ∧ x = '#') :
        t.head? ≠ some '#' ∧ afterBlanks inComment (x :: l ++ t) = t ∨
          afterBlanks inComment (x :: l ++ t) = [] ∧ (t.head? = some '#' ∨
            inComment = true ∧ '\n' ∉ x :: l ∨
            ∃ p q, x :: l = p ++ '#' :: q ∧ '\n' ∉ q ∧ afterBlanks inComment p = []) := by
      rw [hb] at h
      rw [List.cons_append, hb]
      refine (ih h).imp id fun ⟨h0, hc⟩ => ⟨h0, hc.imp id ?_⟩
      rintro (⟨rfl, hl⟩ | ⟨p, q, rfl, hq, hp⟩)
      · rcases hin rfl hl with hin | ⟨rfl, rfl⟩
        · exact .inl hin
        · exact .inr ⟨[], l, rfl, hl, rfl⟩
      · exact .inr ⟨x :: p, q, rfl, hq, by rw [hb, hp]⟩
    cases inComment with
    | true =>
      refine step (b := x ≠ '\n') (fun r => by simp [afterBlanks]) fun hx hl =>
        .inl ⟨rfl, List.not_mem_cons_of_ne_of_not_mem (Ne.symm (of_decide_eq_true hx)) hl⟩
    | false =>
      by_cases hx : x = '#'
      · exact step (b := true) (fun r => by simp [afterBlanks, hx]) fun _ _ => .inr ⟨rfl, hx⟩
      · by_cases hb : isBlank x = true
        · exact step (b := false) (fun r => by simp [afterBlanks, hx, hb]) (by simp)
        · simp [afterBlanks, hx, hb] at h

/-! ## Looking at the next character -/

variable {f f' : Option Char → Reader β} {g g' : Char → Reader β}

theorem run_peek?_bind (f : Option Char → Reader β) (c : Cursor) :
    (peek? >>= f).run c = (f c.rest.head?).run c := rfl

theorem run_peek_bind (g : Char → Reader β) (c : Cursor) :
    (peek >>= g).run c = c.rest.head?.bind fun x => (g x).run c := by
  obtain ⟨_ | ⟨x, r⟩, v, n⟩ := c <;> rfl

theorem run_peek_eq_some {c d : Cursor} {x : Char} :
    peek.run c = some (x, d) ↔ c.rest.head? = some x ∧ c = d := by
  have h : peek.run c = c.rest.head?.bind fun x => some (x, c) := by
    obtain ⟨_ | ⟨y, r⟩, v, n⟩ := c <;> rfl
  rw [h, Option.bind_eq_some_iff]
  constructor
  · rintro ⟨y, hy, hd⟩
    obtain ⟨rfl, rfl⟩ := Prod.mk.inj (Option.some.inj hd)
    exact ⟨hy, rfl⟩
  · rintro ⟨hx, rfl⟩
    exact ⟨x, hx, rfl⟩

theorem peek_starved : Starved peek := by
  rintro ⟨_ | ⟨x, r⟩, v, n⟩ h
  · rfl
  · nomatch h

end Reader

/-- A reader that looks at the next character and then takes it. -/
theorem Takes.peek {g : Char → Reader β} (h : ∀ x, Takes k (g x)) :
    Takes k (Reader.peek >>= g) := by
  intro c a d hrun
  obtain ⟨x, e, he, hrest⟩ := Reader.bind_eq_some.mp hrun
  obtain ⟨-, rfl⟩ := run_peek_eq_some.mp he
  exact h x hrest

theorem Takes.peek? {f : Option Char → Reader β} (h : ∀ o, Takes k (f o)) :
    Takes k (Reader.peek? >>= f) := by
  intro c a d hrun
  rw [run_peek?_bind] at hrun
  exact h _ hrun

theorem Closes.peek {g : Char → Reader β} (h : ∀ x, Takes 1 (g x)) : Closes (Reader.peek >>= g) :=
  ⟨.peek h, peek_starved.bind⟩

section

variable {f f' : Option Char → Reader β} {g g' : Char → Reader β}

theorem Steady.peek? (ht : Takes 0 (Reader.peek? >>= f))
    (h : ∀ x, Steady N (f (some x)) (f' (some x))) :
    Steady N (Reader.peek? >>= f) (Reader.peek? >>= f') := by
  intro c d a y z hc hy hz hd hrun
  have hsuf := Cursor.suffix_of_before (ht hrun).1
  obtain ⟨_ | ⟨x, r⟩, v, n⟩ := c
  · exact absurd (List.suffix_nil.mp hsuf) hd
  · exact h x hc hy hz hd hrun

theorem Steady.peek (ht : Takes 0 (Reader.peek >>= g)) (h : ∀ x, Steady N (g x) (g' x)) :
    Steady N (Reader.peek >>= g) (Reader.peek >>= g') := by
  intro c d a y z hc hy hz hd hrun
  have hsuf := Cursor.suffix_of_before (ht hrun).1
  obtain ⟨_ | ⟨x, r⟩, v, n⟩ := c
  · exact absurd (List.suffix_nil.mp hsuf) hd
  · exact h x hc hy hz hd hrun

/-- What is read after a look at the first character, when the text behind is swallowed. -/
theorem Swallowed.peek? {c d : Cursor} {b : β} {t : List Char} {x : Char}
    (hx : c.rest.head? = some x) (h : Swallowed 1 (f (some x)) c b d t) :
    Swallowed 0 (Reader.peek? >>= f) c b d t := by
  refine ⟨h.verbose, ?_, h.comment.imp id ?_⟩
  · rw [run_peek?_bind, Cursor.rest_before, List.head?_append, hx]
    exact h.run
  · rintro ⟨_ | ⟨y, p⟩, q, hpq, hp, hq, hrun⟩
    · nomatch hp
    · obtain rfl : y = x := by simpa [hpq] using hx
      exact ⟨y :: p, q, hpq, Nat.zero_le _, hq, hrun⟩

/-- The next character is the pattern's own, unless what is behind begins there. -/
theorem Exact.peek? (ht : Takes 0 (Reader.peek? >>= f)) (hnone : Exact 0 N (f none) (f' none))
    (hclose : f (some ')') = f none ∧ f' (some ')') = f' none)
    (hcomment : f (some '#') = f none ∧ f' (some '#') = f' none)
    (h : ∀ x, Exact 1 N (f (some x)) (f' (some x))) :
    Exact 0 N (Reader.peek? >>= f) (Reader.peek? >>= f') := by
  have heq {t : List Char} (ht : Tail t) : f t.head? = f none ∧ f' t.head? = f' none := by
    rcases ht.cases with rfl | ⟨u, rfl⟩ | ⟨u, rfl⟩
    · exact ⟨rfl, rfl⟩
    · exact hclose
    · exact hcomment
  refine ⟨.peek? ht fun x => (h x).steady, ?_, ?_⟩
  · rintro ⟨_ | ⟨x, r⟩, v, n⟩ d a t hs hc ht hd hrun
    · rw [run_peek?_bind] at hrun
      exact hnone.retract hs hc ht hd ((heq ht).1 ▸ hrun)
    · exact (h x).retract (Nat.succ_pos _) hc ht hd hrun
  · rintro ⟨_ | ⟨x, r⟩, v, n⟩ d a t hs hc ht hv hd hrun
    · rw [run_peek?_bind]
      refine (hnone.extend hs hc ht hv hd hrun).imp (fun hr => ?_) fun hsw => ⟨hsw.verbose, ?_, ?_⟩
      · exact (heq ht).2.symm ▸ hr
      · rw [run_peek?_bind]
        exact (heq ht).2.symm ▸ hsw.run
      · exact hsw.comment.imp id fun ⟨p, q, hpq, _⟩ => by simp at hpq
    · have := (h x).extend (c := ⟨x :: r, v, n⟩) (Nat.succ_pos _) hc ht hv hd hrun
      exact this.imp id (Swallowed.peek? rfl)

/-- What is read after the first character when the text behind is swallowed. -/
theorem Swallowed.peek {c d : Cursor} {b : β} {t : List Char} {x : Char}
    (hx : c.rest.head? = some x) (h : Swallowed 1 (g x) c b d t) :
    Swallowed 0 (Reader.peek >>= g) c b d t := by
  refine ⟨h.verbose, ?_, h.comment.imp id ?_⟩
  · rw [run_peek_bind, Cursor.rest_before, List.head?_append, hx]
    exact h.run
  · rintro ⟨_ | ⟨y, p⟩, q, hpq, hp, hq, hrun⟩
    · nomatch hp
    · obtain rfl : y = x := by simpa [hpq] using hx
      exact ⟨y :: p, q, hpq, Nat.zero_le _, hq, hrun⟩

theorem Exact.peek (ht : Takes 1 (Reader.peek >>= g)) (h : ∀ x, Exact 1 N (g x) (g' x)) :
    Exact 0 N (Reader.peek >>= g) (Reader.peek >>= g') := by
  refine ⟨.peek ht.zero fun x => (h x).steady, ?_, ?_⟩
  · rintro ⟨_ | ⟨x, r⟩, v, n⟩ d a t hs hc htail hd hrun
    · cases t with
      | nil => nomatch hrun
      | cons x t => exact absurd hrun (ht.not_before rfl (List.cons_ne_nil x t))
    · exact (h x).retract (Nat.succ_pos _) hc htail hd hrun
  · rintro ⟨_ | ⟨x, r⟩, v, n⟩ d a t hs hc ht hv hd hrun
    · nomatch hrun
    · have := (h x).extend (c := ⟨x :: r, v, n⟩) (Nat.succ_pos _) hc ht hv hd hrun
      exact this.imp id (Swallowed.peek rfl)

end

/-! ## Taking characters -/

namespace Reader

theorem bump_takes : Takes 1 bump := by
  intro c a d h
  obtain rfl : { c with rest := c.rest.drop 1 } = d := congrArg Prod.snd (Option.some.inj h)
  refine ⟨List.drop_suffix _ _, fun hc => ?_⟩
  have := List.length_pos_iff.mpr hc
  simp only [List.length_drop]
  omega

theorem bump_plain : Plain 1 bump := by
  rintro ⟨_ | ⟨x, r⟩, v, n⟩ t hc ht
  · nomatch hc
  · rfl

theorem run_skip (c : Cursor) : skip.run c =
    some ((), if c.verbose then { c with rest := afterBlanks false c.rest } else c) := rfl

theorem skip_takes : Takes 0 skip := by
  intro c a d h
  obtain rfl := congrArg Prod.snd (Option.some.inj h)
  show (if _ then _ else _ : Cursor).rest <:+ _ ∧
    (_ → (if _ then _ else _ : Cursor).rest.length ≤ _)
  split
  · exact ⟨afterBlanks_suffix _ _, fun _ => (afterBlanks_suffix _ _).length_le⟩
  · exact ⟨List.suffix_refl _, fun _ => Nat.le_refl _⟩

theorem skip_calm : Calm skip := by
  intro c a d _ h
  obtain rfl := congrArg Prod.snd (Option.some.inj h)
  show (if _ then _ else _ : Cursor).verbose = _
  split <;> rfl

/-- What stands before a tail once blanks are skipped. -/
theorem afterBlanks_before {l r t u : List Char} (ht : Tail t) (hr : r ≠ [])
    (h : afterBlanks false (l ++ t) = r ++ t) : afterBlanks false (l ++ u) = r ++ u := by
  by_cases h0 : afterBlanks false l = []
  · rcases afterBlanks_append_of_nil h0 ht with ⟨-, h'⟩ | ⟨h', -⟩
    · exact absurd (List.append_left_eq_self.mp (h.symm.trans h')) hr
    · exact absurd (List.append_eq_nil_iff.mp (h.symm.trans h')).1 hr
  · rw [afterBlanks_append h0] at h ⊢
    rw [List.append_cancel_right h]

theorem skip_exact (N : Nat) : Exact 0 N skip skip where
  steady := by
    rintro ⟨r, v, n⟩ d a y z _ hy _ hd h
    have h := (Prod.mk.inj (Option.some.inj h)).2
    cases v with
    | false =>
      obtain rfl := Cursor.before_inj h
      rfl
    | true =>
      obtain ⟨dr, dv, dn⟩ := d
      obtain ⟨hr, rfl, rfl⟩ := Cursor.mk.inj h
      exact congrArg (fun l => some ((), Cursor.mk l true n)) (afterBlanks_before hy hd hr)
  retract := by
    rintro ⟨r, v, n⟩ d a t _ _ ht hd h
    have h := (Prod.mk.inj (Option.some.inj h)).2
    cases v with
    | false =>
      obtain rfl := Cursor.before_inj h
      rfl
    | true =>
      obtain ⟨dr, dv, dn⟩ := d
      obtain ⟨hr, rfl, rfl⟩ := Cursor.mk.inj h
      obtain rfl : dr = [] := hd
      have h0 : afterBlanks false r = [] := Classical.byContradiction fun h0 =>
        h0 (List.append_cancel_right ((afterBlanks_append h0).symm.trans hr))
      exact congrArg (fun l => some ((), Cursor.mk l true n)) h0
  extend := by
    rintro ⟨r, v, n⟩ d a t _ _ ht _ hd h
    obtain rfl := (Prod.mk.inj (Option.some.inj h)).2
    cases v with
    | false => exact .inl rfl
    | true =>
      have hd : afterBlanks false r = [] := hd
      rcases afterBlanks_append_of_nil hd ht with ⟨-, h'⟩ | ⟨h', hc⟩
      · left
        simp [run_skip, Cursor.before, hd, h']
      · right
        refine ⟨rfl, by simp [run_skip, Cursor.before, hd, h'], hc.imp id ?_⟩
        rintro (⟨hf, -⟩ | ⟨p, q, hpq, hq, hp⟩)
        · cases hf
        · exact ⟨p, q, hpq, Nat.zero_le _, hq, by simp [run_skip, hd, hp]⟩

theorem bumpSkip_takes : Takes 1 bumpSkip := bump_takes.first fun _ => skip_takes

theorem bumpSkip_exact (N : Nat) : Exact 1 N bumpSkip bumpSkip :=
  .plain_bind bump_plain bump_takes (fun _ => skip_takes) fun _ _ _ _ _ _ => skip_exact _

theorem run_bumpSkipMore (c : Cursor) : bumpSkipMore.run c =
    (bumpSkip.run c).bind fun p => if p.2.rest.isEmpty then none else some p := by
  simp only [bumpSkipMore, StateT.run_bind, Option.bind_eq_bind]
  congr 1
  funext ⟨_, e⟩
  show (if e.rest.isEmpty = true then failure else Pure.pure PUnit.unit : Reader Unit).run e = _
  split <;> rfl

theorem run_bumpSkipMore_eq_some {c d : Cursor} :
    bumpSkipMore.run c = some ((), d) ↔ bumpSkip.run c = some ((), d) ∧ d.rest ≠ [] := by
  rw [run_bumpSkipMore, Option.bind_eq_some_iff]
  constructor
  · rintro ⟨⟨_, e⟩, he, h⟩
    split at h
    · nomatch h
    · next h0 =>
      obtain rfl := (Prod.mk.inj (Option.some.inj h)).2
      exact ⟨he, by simpa using h0⟩
  · rintro ⟨h, h0⟩
    exact ⟨((), d), h, by simp [h0]⟩

theorem bumpSkipMore_closes : Closes bumpSkipMore where
  takes _ _ _ h := bumpSkip_takes (run_bumpSkipMore_eq_some.mp h).1
  starved c hc := by
    have hb : bumpSkip.run c = some ((), c) := by
      obtain ⟨r, v, n⟩ := c
      obtain rfl : r = [] := hc
      cases v <;> rfl
    simp [run_bumpSkipMore, hb, hc]

theorem bumpSkipMore_steady (N : Nat) : Steady N bumpSkipMore bumpSkipMore := by
  intro c d a y z hc hy hz hd h
  have := (bumpSkip_exact N).steady hc hy hz hd (run_bumpSkipMore_eq_some.mp h).1
  exact run_bumpSkipMore_eq_some.mpr ⟨this, by simp [hd]⟩

theorem run_eat (text : String) (c : Cursor) : (eat text).run c =
    if text.toList.isPrefixOf c.rest then
      some (true, { c with rest := c.rest.drop text.length })
    else some (false, c) := by
  show (if _ then _ else _ : Reader Bool).run c = _
  split <;> rfl

theorem setVerbose_takes (v : Bool) : Takes 0 (setVerbose v) := by
  intro c a d h
  obtain rfl := congrArg Prod.snd (Option.some.inj h)
  exact ⟨List.suffix_refl _, fun _ => Nat.le_refl _⟩

theorem setVerbose_plain (v : Bool) : Plain 0 (setVerbose v) := fun _ _ _ _ => rfl

theorem anyBlanks_takes : Takes 0 anyBlanks := by
  intro c a d h
  obtain rfl := congrArg Prod.snd (Option.some.inj h)
  exact ⟨List.dropWhile_suffix _, fun _ => (List.dropWhile_suffix _).length_le⟩

theorem anyBlanks_plain : Plain 0 anyBlanks := by
  intro c t _ ht
  have hdrop : t.dropWhile isBlank = t := by
    have hclose : isBlank ')' = false := by decide
    have hcomment : isBlank '#' = false := by decide
    rcases ht.cases with rfl | ⟨u, rfl⟩ | ⟨u, rfl⟩
    · rfl
    · rw [List.dropWhile_cons, hclose]
      rfl
    · rw [List.dropWhile_cons, hcomment]
      rfl
  show some ((), { c with rest := (c.rest ++ t).dropWhile isBlank }) =
    some ((), Cursor.before { c with rest := c.rest.dropWhile isBlank } t)
  rw [List.dropWhile_append, hdrop]
  split
  · next h => simp [Cursor.before, List.isEmpty_iff.mp h]
  · rfl

/-- A text without parenthesis and comment does not reach into a tail. -/
theorem isPrefixOf_append {l r t : List Char} (hl : ')' ∉ l ∧ '#' ∉ l) (ht : Tail t) :
    l.isPrefixOf (r ++ t) = l.isPrefixOf r := by
  induction l generalizing r with
  | nil => rfl
  | cons x l ih =>
    simp only [List.mem_cons, not_or] at hl
    cases r with
    | nil =>
      rcases ht.cases with rfl | ⟨u, rfl⟩ | ⟨u, rfl⟩
      · rfl
      · simp [List.isPrefixOf, Ne.symm hl.1.1]
      · simp [List.isPrefixOf, Ne.symm hl.2.1]
    | cons y r => simp [List.isPrefixOf, ih ⟨hl.1.2, hl.2.2⟩]

theorem eat_takes (text : String) : Takes 0 (eat text) := by
  intro c a d h
  rw [run_eat] at h
  split at h
  · obtain rfl := congrArg Prod.snd (Option.some.inj h)
    exact ⟨List.drop_suffix _ _, fun _ => (List.drop_suffix _ _).length_le⟩
  · obtain rfl := congrArg Prod.snd (Option.some.inj h)
    exact ⟨List.suffix_refl _, fun _ => Nat.le_refl _⟩

theorem length_of_eat {text : String} {c d : Cursor} (h : (eat text).run c = some (true, d)) :
    d.rest.length + text.length = c.rest.length := by
  rw [run_eat] at h
  split at h
  · next hp =>
    obtain rfl := congrArg Prod.snd (Option.some.inj h)
    have := (List.isPrefixOf_iff_prefix.mp hp).length_le
    simp only [String.length_toList] at this
    simp only [List.length_drop]
    omega
  · nomatch h

theorem eat_plain {text : String} (hs : ')' ∉ text.toList ∧ '#' ∉ text.toList) :
    Plain 0 (eat text) := by
  intro c t _ ht
  rw [run_eat, run_eat, Cursor.rest_before, isPrefixOf_append hs ht]
  split
  · next hp =>
    have := (List.isPrefixOf_iff_prefix.mp hp).length_le
    rw [String.length_toList] at this
    simp [Cursor.before, List.drop_append_of_le_length this]
  · rfl

/-- The character after the next one, blanks and comments aside. -/
def after? (c : Cursor) : Option Char :=
  (if c.verbose then afterBlanks false (c.rest.drop 1) else c.rest.drop 1).head?

theorem run_peekAfter?_bind (f : Option Char → Reader β) (c : Cursor) :
    (peekAfter? >>= f).run c = (f (after? c)).run c := rfl

theorem peekAfter?_takes : Takes 0 peekAfter? := by
  intro c a d h
  obtain rfl : c = d := congrArg Prod.snd (Option.some.inj h)
  exact ⟨List.suffix_refl _, fun _ => Nat.le_refl _⟩

/-- As far as it is no parenthesis and no comment, the character is the pattern's own. -/
theorem after?_before {c : Cursor} {t : List Char} (ht : Tail t) (hc : c.rest ≠ []) {x : Char}
    (hclose : x ≠ ')') (hcomment : x ≠ '#') :
    after? (c.before t) = some x ↔ after? c = some x := by
  obtain ⟨_ | ⟨y, r⟩, v, n⟩ := c
  · exact absurd rfl hc
  · have htail : t.head? ≠ some x := ht.head_ne hclose hcomment
    cases v with
    | false => cases r <;> simp [after?, htail]
    | true =>
      simp only [after?, Cursor.verbose_before, Cursor.rest_before, List.cons_append,
        List.drop_succ_cons, List.drop_zero, if_true]
      by_cases h0 : afterBlanks false r = []
      · rcases afterBlanks_append_of_nil h0 ht with ⟨-, h⟩ | ⟨h, -⟩ <;> simp [h, h0, htail]
      · obtain ⟨z, l, hl⟩ := List.exists_cons_of_ne_nil h0
        simp [afterBlanks_append h0, hl]

/-- What treats a parenthesis and a comment like the end does not see the tail. -/
theorem after?_congr {γ : Type} {f : Option Char → γ}
    (heq : ∀ x, x = ')' ∨ x = '#' → f (some x) = f none) {c : Cursor} {t : List Char} (ht : Tail t)
    (hc : c.rest ≠ []) : f (after? (c.before t)) = f (after? c) := by
  have hnone (o : Option Char) (h : ∀ x, x ≠ ')' → x ≠ '#' → o ≠ some x) : f o = f none := by
    match o with
    | none => rfl
    | some x =>
      by_cases hx : x = ')' ∨ x = '#'
      · exact heq x hx
      · simp only [not_or] at hx
        exact absurd rfl (h x hx.1 hx.2)
  by_cases h : ∃ x, x ≠ ')' ∧ x ≠ '#' ∧ after? c = some x
  · obtain ⟨x, hclose, hcomment, hx⟩ := h
    rw [hx, (after?_before ht hc hclose hcomment).mpr hx]
  · have h' (x : Char) (hclose : x ≠ ')') (hcomment : x ≠ '#') : after? c ≠ some x := fun hx =>
      h ⟨x, hclose, hcomment, hx⟩
    rw [hnone _ h', hnone _ fun x hclose hcomment hx =>
      h' x hclose hcomment ((after?_before ht hc hclose hcomment).mp hx)]

end Reader

section

variable {m m' : Reader β} {f : Cursor → Reader β}

theorem Still.require (p : Bool) : Still (Reader.require p) := by
  cases p with
  | true => exact .pure ()
  | false => exact .failure

theorem Takes.require {p : Bool} (h : Takes k m) : Takes k (Reader.require p >>= fun _ => m) := by
  cases p with
  | true => exact h
  | false => exact .failure

theorem Steady.require {p : Bool} (h : Steady N m m') :
    Steady N (Reader.require p >>= fun _ => m) (Reader.require p >>= fun _ => m') := by
  cases p with
  | true => exact h
  | false => exact .failure

theorem Exact.require {p : Bool} (h : Exact s N m m') :
    Exact s N (Reader.require p >>= fun _ => m) (Reader.require p >>= fun _ => m') := by
  cases p with
  | true => exact h
  | false => exact .failure

theorem Takes.get (h : ∀ c, Takes k (f c)) : Takes k (MonadState.get >>= f) := fun c _ _ hrun =>
  h c hrun

/-- Readers that see of a cursor only how much is left, and may be given more fuel than needed. -/
theorem Steady.get
    (h : ∀ M (c c' : Cursor), M ≤ N → M ≤ c.rest.length → M ≤ c'.rest.length →
      c.names = c'.names → c.verbose = c'.verbose → Steady M (f c) (f c')) :
    Steady N (MonadState.get >>= f) (MonadState.get >>= f) := fun c _ _ y z hc hy hz hd hrun =>
  h c.rest.length (c.before y) (c.before z) hc (by simp) (by simp) rfl rfl (Nat.le_refl _) hy hz hd
    hrun

theorem Exact.get
    (h : ∀ M (c c' : Cursor), M ≤ N → M ≤ c.rest.length → M ≤ c'.rest.length →
      c.names = c'.names → c.verbose = c'.verbose → Exact 0 M (f c) (f c')) :
    Exact 0 N (MonadState.get >>= f) (MonadState.get >>= f) where
  steady := .get fun M c c' hM hc hc' hn hv => (h M c c' hM hc hc' hn hv).steady
  retract c _ _ _ _ hc ht hd hrun :=
    (h c.rest.length (c.before _) c hc (by simp) (Nat.le_refl _) rfl rfl).retract (Nat.zero_le _)
      (Nat.le_refl _) ht hd hrun
  extend c d a t _ hc ht hv hd hrun := by
    refine ((h c.rest.length c (c.before t) hc (Nat.le_refl _) (by simp) rfl rfl).extend
      (Nat.zero_le _) (Nat.le_refl _) ht hv hd hrun).imp id fun hsw =>
        ⟨hsw.verbose, hsw.run, hsw.comment.imp id ?_⟩
    rintro ⟨p, q, hpq, hp0, hq, hp⟩
    have hlen : p.length ≤ c.rest.length := by simp [hpq]
    exact ⟨p, q, hpq, hp0, hq, (h p.length (c.before t) { c with rest := p }
      (Nat.le_trans hlen hc) (by simp only [Cursor.rest_before, List.length_append]; omega)
      (Nat.le_refl _) rfl rfl).retract (t := []) (Nat.zero_le _) (Nat.le_refl _) .nil hd
      (by simpa using hp)⟩

theorem Starved.get (h : ∀ c, Starved (f c)) : Starved (MonadState.get >>= f) := fun c hc => h c hc

/-- A loop with as much fuel as there are characters, and what follows it. -/
theorem Whole.loop {α : Type} {L : Nat → Reader α} {f : α → Reader β} (hc : ∀ n, Closes (L n))
    (h : ∀ {N n n'}, N < n' → Exact 0 N (L n) (L n')) (hf : ∀ a, Still (f a)) :
    Whole (MonadState.get >>= fun c : Cursor => L (c.rest.length + 1) >>= f) where
  takes := .get fun _ => (hc _).takes.first fun a => (hf a).takes
  starved := .get fun _ => (hc _).starved.bind
  exact N := .get fun M c c' _ _ hM _ _ => (h (by omega)).still (hc _).takes.zero hf

end

theorem Reader.bumpSkipMore_stable : Stable 1 bumpSkipMore :=
  ⟨bumpSkipMore_closes.takes, bumpSkipMore_steady⟩

/-- Something must follow blanks, and what needs a character is read from there. -/
theorem Whole.bumpSkipMore {f : Unit → Reader β} (h : ∀ a, Whole (f a)) :
    Whole (Reader.bumpSkipMore >>= f) :=
  bumpSkipMore_stable.whole bumpSkipMore_closes.starved h

theorem Reader.bumpSkip_token : Token bumpSkip := ⟨bumpSkip_takes, bumpSkip_exact⟩

theorem Token.bump {m : Reader β} (h : Still m) : Token (Reader.bump >>= fun _ => m) where
  takes := bump_takes.first fun _ => h.takes
  exact _ := .plain_bind bump_plain bump_takes (fun _ => h.takes) fun _ _ _ _ _ _ => h.exact _

theorem Whole.peek {g : Char → Reader β} (h : ∀ x, Token (g x)) : Whole (Reader.peek >>= g) where
  takes := .peek fun x => (h x).takes
  starved := peek_starved.bind
  exact N := .peek (.peek fun x => (h x).takes) fun x => (h x).exact N

theorem Reader.bump_token : Token bump := by
  have := Token.bump (.pure ())
  rwa [show (bump >>= fun _ => pure ()) = bump from bind_pure bump] at this

theorem Token.require {p : Bool} {m : Reader β} (h : Token m) :
    Token (Reader.require p >>= fun _ => m) :=
  ⟨h.takes.require, fun N => (h.exact N).require⟩

theorem Plain.exact {m : Reader β} (hm : Plain 0 m) (ht : Takes 0 m) (N : Nat) : Exact 0 N m m := by
  have := Exact.plain_bind (N := N) hm ht (fun a => .pure a) fun _ a _ _ _ _ => .pure (s := 0) a
  simpa using this

theorem Plain.still {m : Reader β} (hm : Plain 0 m) (ht : Takes 0 m) (hc : Calm m) : Still m :=
  ⟨ht, hc, hm.exact ht⟩

theorem Steady.peekAfter? {f f' : Option Char → Reader β}
    (heq : ∀ x, x = ')' ∨ x = '#' → f (some x) = f none)
    (heq' : ∀ x, x = ')' ∨ x = '#' → f' (some x) = f' none) (ht : ∀ o, Takes 0 (f o))
    (h : ∀ o, Steady N (f o) (f' o)) :
    Steady N (Reader.peekAfter? >>= f) (Reader.peekAfter? >>= f') := by
  intro c d a y z hc hy hz hd hrun
  rw [run_peekAfter?_bind] at hrun ⊢
  have hc0 : c.rest ≠ [] := fun h0 => hd (List.suffix_nil.mp (h0 ▸ ((ht _).of_before hrun).1))
  rw [after?_congr heq hy hc0] at hrun
  rw [after?_congr heq' hz hc0]
  exact h _ hc hy hz hd hrun

theorem Exact.peekAfter? {f f' : Option Char → Reader β}
    (heq : ∀ x, x = ')' ∨ x = '#' → f (some x) = f none)
    (heq' : ∀ x, x = ')' ∨ x = '#' → f' (some x) = f' none) (ht : ∀ o, Takes 0 (f o))
    (h : ∀ o, Exact 1 N (f o) (f' o)) :
    Exact 1 N (Reader.peekAfter? >>= f) (Reader.peekAfter? >>= f') where
  steady := .peekAfter? heq heq' ht fun o => (h o).steady
  retract c d a t hs hc htail hd hrun := by
    rw [run_peekAfter?_bind] at hrun ⊢
    rw [after?_congr heq htail (List.ne_nil_of_length_pos hs)] at hrun
    exact (h _).retract hs hc htail hd hrun
  extend c d a t hs hc htail hv hd hrun := by
    rw [run_peekAfter?_bind] at hrun ⊢
    rw [after?_congr heq' htail (List.ne_nil_of_length_pos hs)]
    refine ((h _).extend hs hc htail hv hd hrun).imp id fun hsw =>
      ⟨hsw.verbose, ?_, hsw.comment.imp id ?_⟩
    · rw [run_peekAfter?_bind, after?_congr heq' htail (List.ne_nil_of_length_pos hs)]
      exact hsw.run
    · rintro ⟨p, q, hpq, hp0, hq, hp⟩
      refine ⟨p, q, hpq, hp0, hq, ?_⟩
      have hcp : c = Cursor.before { c with rest := p } ('#' :: q) := by
        obtain ⟨r, v, n⟩ := c
        exact congrArg (Cursor.mk · v n) hpq
      rw [hcp, after?_congr (c := { c with rest := p }) heq' (.comment hq)
        (List.ne_nil_of_length_pos hp0)] at hp
      exact hp

theorem Reader.peek?_require (x : Char) (f : Unit → Reader β) :
    (peek? >>= fun o => require (decide (o = some x)) >>= f) =
      peek >>= fun y => require (decide (y = x)) >>= f := by
  funext ⟨r, v, n⟩
  cases r with
  | nil => rfl
  | cons y r =>
    show (require (decide (some y = some x)) >>= f).run _ = (require (decide (y = x)) >>= f).run _
    simp only [Option.some.injEq]

/-- A character that has to come next, and what takes it. -/
theorem Whole.require {x : Char} {m : Reader β} (h : Token m) :
    Whole (Reader.peek? >>= fun o => Reader.require (decide (o = some x)) >>= fun _ => m) := by
  rw [peek?_require x fun _ => m]
  exact .peek fun _ => h.require

/-- A loop that can stop anywhere, and what needs a character after it. -/
theorem Whole.steadyLoop {α : Type} {L : Nat → Reader α} {f : α → Reader β}
    (ht : ∀ n, Takes 0 (L n)) (h : ∀ {N n n'}, N < n' → Steady N (L n) (L n'))
    (hf : ∀ a, Whole (f a)) :
    Whole (MonadState.get >>= fun c : Cursor => L (c.rest.length + 1) >>= f) where
  takes := .get fun _ => .second (Nat.le_refl 1) (ht _) fun a => (hf a).takes
  starved := .get fun _ => .second (ht _) fun a => (hf a).starved
  exact N := .get fun M c c' _ _ hM _ _ => .of_steady (h (by omega)) (ht _)
    (fun a => (hf a).toCloses) (fun a => (hf a).starved) fun a M _ => (hf a).exact M

/-- A reader that looks at the next character, and treats a tail like the end. -/
theorem Still.peek? {f : Option Char → Reader β} (hnone : Still (f none))
    (hclose : f (some ')') = f none) (hcomment : f (some '#') = f none)
    (ht : ∀ x, Takes 0 (f (some x))) (h : ∀ x N, Exact 1 N (f (some x)) (f (some x))) :
    Still (Reader.peek? >>= f) := by
  have htakes : Takes 0 (Reader.peek? >>= f) := .peek? fun o => by
    cases o with
    | none => exact hnone.takes
    | some x => exact ht x
  refine ⟨htakes, fun c a d hc hrun => ?_, fun N => .peek? htakes (hnone.exact N) ⟨hclose, hclose⟩
    ⟨hcomment, hcomment⟩ fun x => h x N⟩
  rw [run_peek?_bind, hc] at hrun
  exact hnone.calm hc hrun

theorem Reader.skip_still : Still skip := ⟨skip_takes, skip_calm, skip_exact⟩

section

variable {text : String} {a a' b b' : Reader β}

theorem Takes.eat (hk : k ≤ 1) (ha : Takes k a) (hb : Takes k b) :
    Takes k (Reader.eat text >>= fun found => if found = true then a else b) :=
  .second hk (eat_takes text) fun found => by
    cases found
    · exact hb
    · exact ha

theorem Starved.eat (hpos : 0 < text.length) (hb : Starved b) :
    Starved (Reader.eat text >>= fun found => if found = true then a else b) := by
  intro c hc
  have hnil : text.toList.isPrefixOf ([] : List Char) = false := by
    rw [← String.length_toList] at hpos
    obtain ⟨x, l, hl⟩ := List.exists_cons_of_length_pos hpos
    rw [hl]
    rfl
  rw [StateT.run_bind, run_eat, hc, hnil]
  exact hb hc

theorem Closes.eat (hpos : 0 < text.length) (ha : Takes 1 a) (hb : Closes b) :
    Closes (Reader.eat text >>= fun found => if found = true then a else b) :=
  ⟨.eat (Nat.le_refl 1) ha hb.takes, .eat hpos hb.starved⟩

/-- A text that is taken if it comes next; it has to be one that no tail begins with. -/
theorem Exact.eat (hs : ')' ∉ text.toList ∧ '#' ∉ text.toList) (hpos : 0 < text.length)
    (hta : Takes 0 a) (htb : Takes 0 b) (ha : ∀ M, M < N → Exact 0 M a a') (hb : Exact 0 N b b') :
    Exact 0 N (Reader.eat text >>= fun found => if found = true then a else b)
      (Reader.eat text >>= fun found => if found = true then a' else b') := by
  refine .plain_bind (eat_plain hs) (eat_takes text) (fun found => ?_) fun c found d _ hc hrun => ?_
  · cases found
    · exact htb
    · exact hta
  · cases found with
    | true => exact ha _ (by have := length_of_eat hrun; omega)
    | false => exact hb.mono (Nat.le_trans (eat_takes text hrun).1.length_le hc)

/-- Two readers that agree, the first of which needs a character and takes it. -/
structure Paired (N : Nat) (m m' : Reader α) : Prop where
  closes : Closes m
  exact : Exact 0 N m m'

theorem Paired.eat (hs : ')' ∉ text.toList ∧ '#' ∉ text.toList) (hpos : 0 < text.length)
    (hta : Takes 1 a) (ha : ∀ M, M < N → Exact 0 M a a') (hb : Paired N b b') :
    Paired N (Reader.eat text >>= fun found => if found = true then a else b)
      (Reader.eat text >>= fun found => if found = true then a' else b') :=
  ⟨.eat hpos hta hb.closes, .eat hs hpos hta.zero hb.closes.takes.zero ha hb.exact⟩

end

theorem Stable.peek {g : Char → Reader β} (h : ∀ x, Stable k (g x)) :
    Stable k (Reader.peek >>= g) where
  takes := .peek fun x => (h x).takes
  steady N := .peek (.peek fun x => (h x).takes.zero) fun x => (h x).steady N

theorem Stable.peekAfter? {f : Option Char → Reader β}
    (heq : ∀ x, x = ')' ∨ x = '#' → f (some x) = f none) (h : ∀ o, Stable 0 (f o)) :
    Stable 0 (Reader.peekAfter? >>= f) where
  takes := .second (Nat.zero_le 1) peekAfter?_takes fun o => (h o).takes
  steady N := .peekAfter? heq heq (fun o => (h o).takes) fun o => (h o).steady N

theorem Stable.loop {α : Type} {L : Nat → Reader α} {f : α → Reader β} (ht : ∀ n, Takes 0 (L n))
    (h : ∀ {N n n'}, N < n' → Steady N (L n) (L n')) (hf : ∀ a, Stable 0 (f a)) :
    Stable 0 (MonadState.get >>= fun c : Cursor => L (c.rest.length + 1) >>= f) where
  takes := .get fun _ => (ht _).first fun a => (hf a).takes
  steady N := .get fun M c c' _ _ hM _ _ => (h (by omega)).bind (ht _) (fun a => (hf a).takes)
    fun a M _ => (hf a).steady M

theorem afterBlanks_idem (inComment : Bool) (l : List Char) :
    afterBlanks false (afterBlanks inComment l) = afterBlanks inComment l := by
  induction l generalizing inComment with
  | nil => rfl
  | cons x l ih =>
    rw [afterBlanks]
    split
    · exact ih _
    · split
      · exact ih _
      · split
        · exact ih _
        · next hx hb => simp [afterBlanks, hx, hb]

theorem run_skip_of_run_skip {c e : Cursor} (h : skip.run c = some ((), e)) :
    skip.run e = some ((), e) := by
  obtain ⟨r, v, n⟩ := c
  obtain rfl := congrArg Prod.snd (Option.some.inj h)
  cases v with
  | false => rfl
  | true => exact congrArg (fun l => some ((), Cursor.mk l true n)) (afterBlanks_idem false r)

/-- Behind blanks no comment begins. -/
theorem head?_ne_of_run_skip {c e : Cursor} (h : skip.run c = some ((), e)) (hv : e.verbose = true) :
    e.rest.head? ≠ some '#' := by
  obtain ⟨_ | ⟨x, r⟩, v, n⟩ := e
  · simp
  · rintro ⟨⟩
    obtain rfl : v = true := hv
    have hrest : afterBlanks true r = '#' :: r :=
      congrArg (fun p : Unit × Cursor => p.2.rest) (Option.some.inj (run_skip_of_run_skip h))
    exact absurd (hrest ▸ afterBlanks_suffix true r).length_le (Nat.not_succ_le_self r.length)

/-- What a reader that skips blanks first takes behind them. -/
theorem Takes.of_skip {m : Reader β} (ht : Takes k (skip >>= fun _ => m)) {c e d : Cursor} {b : β}
    (he : skip.run c = some ((), e)) (hd : m.run e = some (b, d)) :
    d.rest <:+ e.rest ∧ (e.rest ≠ [] → d.rest.length + k ≤ e.rest.length) :=
  ht (Reader.bind_eq_some.mpr ⟨(), e, run_skip_of_run_skip he, hd⟩)

/-- Where a reader stops that skips blanks before a tail, and where the blanks end. -/
theorem Takes.split_skip {m : Reader β} (ht : Takes k (skip >>= fun _ => m)) {c d : Cursor} {b : β}
    {t : List Char} (hrun : (skip >>= fun _ => m).run (c.before t) = some (b, d.before t)) :
    ∃ e : Cursor, e.rest <:+ c.rest ∧ d.rest <:+ e.rest ∧
      skip.run (c.before t) = some ((), e.before t) ∧ m.run (e.before t) = some (b, d.before t) := by
  obtain ⟨_, e, he, hrest⟩ := Reader.bind_eq_some.mp hrun
  obtain ⟨e, rfl, hd⟩ := Cursor.split (ht.of_skip he hrest).1
  exact ⟨e, (skip_takes.of_before he).1, hd, he, hrest⟩

/-- What is read behind blanks when the text behind is swallowed. -/
theorem Swallowed.skip {m : Reader β} {c e d : Cursor} {b : β} {t : List Char} (ht : Tail t)
    (he : skip.run c = some ((), e)) (he0 : e.rest ≠ []) (h : Swallowed s m e b d t) :
    Swallowed 0 (skip >>= fun _ => m) c b d t := by
  have hskip := skip_exact c.rest.length
  have he' : Reader.skip.run (c.before t) = some ((), e.before t) :=
    hskip.steady (Nat.le_refl _) .nil ht he0 (by simpa using he)
  exact .second skip_takes he he' (fun _ _ _ hl hlc _ hq => hskip.retract' hl hlc hq) h

/-- Blanks, and a character that has to follow. -/
theorem Exact.skip_peek {g g' : Char → Reader β} (hc : Closes (skip >>= fun _ => Reader.peek >>= g))
    (h : ∀ x, Exact 1 N (g x) (g' x)) :
    Exact 0 N (skip >>= fun _ => Reader.peek >>= g) (skip >>= fun _ => Reader.peek >>= g') := by
  -- The character that was looked at is not of the tail.
  have hown {c d : Cursor} {a : β} {t : List Char}
      (hrun : (skip >>= fun _ => Reader.peek >>= g).run (c.before t) = some (a, d.before t)) :
      ∃ (e : Cursor) (x : Char), e.rest.head? = some x ∧ e.rest <:+ c.rest ∧
        skip.run (c.before t) = some ((), e.before t) ∧
        (g x).run (e.before t) = some (a, d.before t) := by
    obtain ⟨e, hsuf, -, he, hrest⟩ := hc.takes.split_skip hrun
    have hrest' := hrest
    rw [run_peek_bind] at hrest'
    obtain ⟨x, hx, hx'⟩ := Option.bind_eq_some_iff.mp hrest'
    have hlen := (hc.takes.of_skip he hrest).2 fun h0 => nomatch h0 ▸ hx
    refine ⟨e, x, ?_, hsuf, he, hx'⟩
    obtain ⟨_ | ⟨y, r⟩, v, n⟩ := e
    · simp only [Cursor.rest_before, List.nil_append, List.length_append] at hlen
      omega
    · exact hx
  have hne {e : Cursor} {x : Char} (hx : e.rest.head? = some x) : e.rest ≠ [] := fun h0 =>
    nomatch h0 ▸ hx
  have hpeek {e : Cursor} {x : Char} {t : List Char} (hx : e.rest.head? = some x) :
      (Reader.peek >>= g').run (e.before t) = (g' x).run (e.before t) := by
    rw [run_peek_bind, Cursor.rest_before, List.head?_append, hx]
    rfl
  refine ⟨?_, ?_, ?_⟩
  · intro c d a y z hlen hy hz hd hrun
    obtain ⟨e, x, hx, hsuf, he, hrest⟩ := hown hrun
    refine Reader.bind_eq_some.mpr ⟨(), e.before z,
      (skip_exact N).steady hlen hy hz (hne hx) he, ?_⟩
    rw [hpeek hx]
    exact (h x).steady (Nat.le_trans hsuf.length_le hlen) hy hz hd hrest
  · intro c d a t _ hlen ht hd hrun
    obtain ⟨e, x, hx, hsuf, he, hrest⟩ := hown hrun
    refine Reader.bind_eq_some.mpr ⟨(), e, (skip_exact N).retract' (Nat.zero_le _) hlen ht he, ?_⟩
    rw [← Cursor.before_nil e, hpeek hx, Cursor.before_nil]
    exact (h x).retract (List.length_pos_iff.mpr (hne hx))
      (Nat.le_trans hsuf.length_le hlen) ht hd hrest
  · intro c d a t _ hlen ht hv hd hrun
    obtain ⟨e, x, hx, hsuf, he, hrest⟩ := hown (t := []) (by simpa using hrun)
    rw [Cursor.before_nil, Cursor.before_nil] at he hrest
    have he' : skip.run (c.before t) = some ((), e.before t) :=
      (skip_exact N).steady hlen .nil ht (hne hx) (by simpa using he)
    rcases (h x).extend (List.length_pos_iff.mpr (hne hx)) (Nat.le_trans hsuf.length_le hlen) ht hv
      hd hrest with hr | hsw
    · exact .inl (Reader.bind_eq_some.mpr ⟨(), _, he', by rw [hpeek hx, hr]⟩)
    · exact .inr (.skip ht he (hne hx) (.peek hx hsw))

theorem Reader.anyBlanks_still : Still anyBlanks :=
  anyBlanks_plain.still anyBlanks_takes fun c _ d _ h => by
    obtain rfl := congrArg Prod.snd (Option.some.inj h)
    rfl

theorem Reader.eat_still {text : String} (hs : ')' ∉ text.toList ∧ '#' ∉ text.toList) :
    Still (eat text) := by
  refine (eat_plain hs).still (eat_takes text) fun c b d _ h => ?_
  rw [run_eat] at h
  split at h
  all_goals
    obtain rfl := congrArg Prod.snd (Option.some.inj h)
    rfl

theorem Reader.ite_bind (p : Prop) [Decidable p] (a b : Reader α) (f : α → Reader β) :
    (if p then a else b) >>= f = if p then a >>= f else b >>= f := by
  split <;> rfl

/-- What depends on whether blanks are skipped, and on nothing else of a cursor. -/
theorem Exact.get_verbose {f f' : Bool → Reader β} (h : ∀ v, Exact 0 N (f v) (f' v)) :
    Exact 0 N (MonadState.get >>= fun c : Cursor => f c.verbose)
      (MonadState.get >>= fun c : Cursor => f' c.verbose) where
  steady c _ _ _ _ hc hy hz hd hrun := (h c.verbose).steady hc hy hz hd hrun
  retract c _ _ _ hs hc ht hd hrun := (h c.verbose).retract hs hc ht hd hrun
  extend c d a t hs hc ht hv hd hrun := by
    refine ((h c.verbose).extend hs hc ht hv hd hrun).imp id fun hsw =>
      ⟨hsw.verbose, hsw.run, hsw.comment.imp id ?_⟩
    rintro ⟨p, q, hpq, hp0, hq, hp⟩
    exact ⟨p, q, hpq, hp0, hq, hp⟩

end BuildQueue.Pattern
