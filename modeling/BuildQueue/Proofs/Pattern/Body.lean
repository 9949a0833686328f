import BuildQueue.Proofs.Pattern.Tokens

/-!
# Alternatives and what stands behind them

Alternatives are read up to the end or up to a parenthesis that was not opened in them. Behind their
text a closing parenthesis is therefore as good as the end (`body_exact`), unless a comment runs
up to the end of the text.
-/

namespace BuildQueue.Pattern

open Reader

variable {α β : Type} {N : Nat}

/-! ## Stopping at the end or at a parenthesis -/

section

variable {f f' : Option Char → Reader β} {v : β}

/-- Blanks, and a character at which the reader stops if it is a closing parenthesis, as it does at
the end. -/
theorem Exact.skip_peek? (ht : Takes 0 (skip >>= fun _ => Reader.peek? >>= f))
    (hcomment : Takes 1 (f (some '#')))
    (hnone : f none = Pure.pure v ∧ f' none = Pure.pure v)
    (hclose : f (some ')') = Pure.pure v ∧ f' (some ')') = Pure.pure v)
    (h : ∀ x, x ≠ ')' → Exact 1 N (f (some x)) (f' (some x))) :
    Exact 0 N (skip >>= fun _ => Reader.peek? >>= f) (skip >>= fun _ => Reader.peek? >>= f') := by
  have hhead {e : Cursor} (he : e.rest ≠ []) : ∃ x, e.rest.head? = some x ∧
      ∀ t, (e.before t).rest.head? = some x := by
    obtain ⟨x, r, hr⟩ := List.exists_cons_of_ne_nil he
    exact ⟨x, by rw [hr]; rfl, fun t => by rw [Cursor.rest_before, hr]; rfl⟩
  have hpure {e d : Cursor} {a : β} (hrun : (Pure.pure v : Reader β).run e = some (a, d)) :
      v = a ∧ e = d := by simpa using hrun
  refine ⟨?_, ?_, ?_⟩
  · intro c d a y z hlen hy hz hd hrun
    obtain ⟨e, hec, hde, he, hrest⟩ := ht.split_skip hrun
    have he0 : e.rest ≠ [] := fun h0 => hd (List.suffix_nil.mp (h0 ▸ hde))
    obtain ⟨x, -, hx⟩ := hhead he0
    refine Reader.bind_eq_some.mpr ⟨(), e.before z, (skip_exact N).steady hlen hy hz he0 he, ?_⟩
    rw [run_peek?_bind, hx] at hrest
    rw [run_peek?_bind, hx]
    by_cases hx' : x = ')'
    · subst hx'
      rw [hclose.1] at hrest
      rw [hclose.2]
      obtain ⟨rfl, hed⟩ := hpure hrest
      rw [Cursor.before_inj hed]
      rfl
    · exact (h x hx').steady (Nat.le_trans hec.length_le hlen) hy hz hd hrest
  · intro c d a t _ hlen htail hd hrun
    obtain ⟨e, hec, hde, he, hrest⟩ := ht.split_skip hrun
    refine Reader.bind_eq_some.mpr
      ⟨(), e, (skip_exact N).retract' (Nat.zero_le _) hlen htail he, ?_⟩
    rw [run_peek?_bind] at hrest ⊢
    by_cases he0 : e.rest = []
    · rw [he0, List.head?_nil, hnone.2]
      have hstop : f (e.before t).rest.head? = Pure.pure v := by
        rw [Cursor.rest_before, he0]
        rcases htail.cases with rfl | ⟨u, rfl⟩ | ⟨u, rfl⟩
        · exact hnone.1
        · exact hclose.1
        · rw [Cursor.rest_before, he0] at hrest
          exact absurd hrest (hcomment.not_before he0 (List.cons_ne_nil _ _))
      rw [hstop] at hrest
      obtain ⟨rfl, hed⟩ := hpure hrest
      rw [Cursor.before_inj hed]
      rfl
    · obtain ⟨x, hx0, hx⟩ := hhead he0
      rw [hx] at hrest
      rw [hx0]
      refine (h x fun hx' => ?_).retract (List.length_pos_iff.mpr he0)
        (Nat.le_trans hec.length_le hlen) htail hd hrest
      subst hx'
      rw [hclose.1] at hrest
      exact he0 (Cursor.before_inj (hpure hrest).2 ▸ hd)
  · intro c d a t _ hlen htail hv hd hrun
    obtain ⟨e, hec, -, he, hrest⟩ := ht.split_skip (t := []) (by simpa using hrun)
    simp only [Cursor.before_nil, run_peek?_bind] at he hrest
    by_cases he0 : e.rest = []
    · rw [he0, List.head?_nil, hnone.1] at hrest
      obtain ⟨rfl, rfl⟩ := hpure hrest
      have hend : (Reader.peek? >>= f').run e = some (v, e) := by
        rw [run_peek?_bind, he0, List.head?_nil, hnone.2]
        rfl
      rcases (skip_exact N).extend (Nat.zero_le _) hlen htail hv he0 he with he' | hsw
      · refine .inl (Reader.bind_eq_some.mpr ⟨(), _, he', ?_⟩)
        rw [run_peek?_bind, Cursor.rest_before, he0]
        rcases htail.cases with rfl | ⟨u, rfl⟩ | ⟨u, rfl⟩
        · rw [List.append_nil, List.head?_nil, hnone.2]
          rfl
        · rw [List.nil_append, List.head?_cons, hclose.2]
          rfl
        · exact absurd (by rw [Cursor.rest_before, he0]; rfl) (head?_ne_of_run_skip he' (hv rfl))
      · exact .inr (hsw.first hend rfl)
    · obtain ⟨x, hx0, hx⟩ := hhead he0
      rw [hx0] at hrest
      have hx' : x ≠ ')' := by
        rintro rfl
        rw [hclose.1] at hrest
        exact he0 ((hpure hrest).2 ▸ hd)
      have he' : skip.run (c.before t) = some ((), e.before t) :=
        (skip_exact N).steady hlen .nil htail he0 (by simpa using he)
      rcases (h x hx').extend (List.length_pos_iff.mpr he0) (Nat.le_trans hec.length_le hlen) htail
        hv hd hrest with hr | hsw
      · refine .inl (Reader.bind_eq_some.mpr ⟨(), _, he', ?_⟩)
        rwa [run_peek?_bind, hx]
      · exact .inr (.skip htail he he0 (.peek? hx0 hsw))

end

/-! ## What reads on from a brace -/

/-- No number begins with a parenthesis or a comment. -/
theorem paddedNumber_stuck {c : Cursor} (h : ∀ x ∈ c.rest.head?, x = ')' ∨ x = '#') :
    paddedNumber.run c = none := by
  obtain ⟨_ | ⟨x, r⟩, v, n⟩ := c
  · exact paddedNumber_starved rfl
  · rcases h x rfl with rfl | rfl <;> rfl

/-- No repetition begins where nothing can stand in the braces. -/
theorem counted_stuck {c : Cursor} (hx : begins (after? c) = false) : counted.run c = none := by
  refine Option.eq_none_iff_forall_ne_some.mpr fun ⟨b, d⟩ h => ?_
  obtain ⟨_, e, he, hrest⟩ := Reader.bind_eq_some.mp h
  obtain ⟨e', he', hhead⟩ := run_bumpSkip c
  obtain rfl := (Prod.mk.inj (Option.some.inj
    ((run_bumpSkipMore_eq_some.mp he).1.symm.trans he'))).2
  obtain ⟨n, e', hn, -⟩ := Reader.bind_eq_some.mp hrest
  rw [paddedNumber_stuck fun x hx' => ?_] at hn
  · nomatch hn
  · rw [← hhead, hx'] at hx
    simpa [begins, Classical.or_iff_not_imp_left] using hx

theorem body_stuck (fuel : Nat) (branches items : List Node) {c : Cursor}
    (hc : c.rest.head? = some '\x7b') (hx : begins (after? c) = false) :
    (body fuel branches items).run c = none := by
  cases fuel with
  | zero => rfl
  | succ fuel =>
    have hskip : skip.run c = some ((), c) := by
      obtain ⟨_ | ⟨y, r⟩, v, n⟩ := c
      · nomatch hc
      · obtain rfl := Option.some.inj hc
        cases v <;> rfl
    rw [body, StateT.run_bind, hskip, Option.bind_eq_bind, Option.bind_some, run_peek?_bind, hc]
    show (counted >>= _).run c = none
    rw [StateT.run_bind, counted_stuck hx]
    rfl

/-! ## Alternatives -/

theorem closeGroup_whole (verbose : Bool) : Whole (closeGroup verbose) :=
  .require ⟨bump_takes.first fun _ => setVerbose_takes _, fun _ => .plain_bind bump_plain bump_takes
    (fun _ => setVerbose_takes _) fun _ _ _ _ _ _ =>
      (setVerbose_plain _).exact (setVerbose_takes _) _⟩

theorem verboseAfter_takes (change : FlagChange) : Takes 0 (verboseAfter change) := by
  unfold verboseAfter
  split
  · exact setVerbose_takes _
  · exact .pure ()

theorem verboseAfter_plain (change : FlagChange) : Plain 0 (verboseAfter change) := by
  unfold verboseAfter
  split
  · exact setVerbose_plain _
  · exact fun _ _ _ _ => rfl

/-- An escape in alternatives can be settled at once. -/
theorem escape_body (fuel : Nat) (branches : List Node) (items : Primitive → List Node) :
    escape >>= (fun p => body fuel branches (items p)) =
      (escape >>= settle) >>= fun p => body fuel branches (items p) :=
  escape_bind fun _ hc hx => body_stuck _ _ _ hc hx

theorem body_takes (fuel : Nat) (branches items : List Node) :
    Takes 0 (body fuel branches items) := by
  induction fuel generalizing branches items with
  | zero => exact .failure
  | succ fuel ih =>
    have hrepeat (items : List Node) (min : Nat) (max : Option Nat) :
        Takes 0 (repeatLast items min max >>= fun items => body fuel branches items) :=
      (repeatLast_still _ _ _).takes.first fun _ => ih _ _
    refine skip_takes.first fun _ => .peek? fun o => ?_
    split
    · exact .pure _
    · exact .pure _
    · exact bump_takes.zero.first fun _ => ih _ _
    · refine groupStart_takes.zero.first fun start => ?_
      cases start with
      | flags change => exact (verboseAfter_takes _).first fun _ => ih _ _
      | group change =>
        exact .get fun _ => (verboseAfter_takes _).first fun _ => (ih _ _).first fun _ =>
          (closeGroup_whole _).takes.zero.first fun _ => ih _ _
    · exact bracketed_whole.takes.zero.first fun _ => ih _ _
    · exact lazyMark_token.takes.zero.first fun _ => hrepeat _ _ _
    · exact lazyMark_token.takes.zero.first fun _ => hrepeat _ _ _
    · exact lazyMark_token.takes.zero.first fun _ => hrepeat _ _ _
    · exact counted_whole.takes.zero.first fun _ => hrepeat _ _ _
    · rw [escape_body]
      exact escape_settle_token.takes.zero.first fun _ => ih _ _
    · exact bump_takes.zero.first fun _ => ih _ _

theorem body_calm (fuel : Nat) (branches items : List Node) : Calm (body fuel branches items) := by
  cases fuel with
  | zero => exact .failure
  | succ fuel =>
    intro c a d hc h
    obtain ⟨_, e, he, hrest⟩ := Reader.bind_eq_some.mp h
    have he0 : e.rest = [] := List.suffix_nil.mp (hc ▸ (skip_takes he).1)
    rw [run_peek?_bind, he0] at hrest
    obtain ⟨-, rfl⟩ := Prod.mk.inj (Option.some.inj hrest)
    exact skip_calm hc he

theorem closeGroup_body_closes (verbose : Bool) (fuel : Nat) (branches items : List Node) :
    Closes (closeGroup verbose >>= fun _ => body fuel branches items) :=
  ⟨(closeGroup_whole _).takes.first fun _ => body_takes _ _ _, (closeGroup_whole _).starved.bind⟩

section

variable {fuel fuel' : Nat} (branches items : List Node)

/-- The inside of a group is closed by a parenthesis of the pattern. -/
theorem inside_exact (verbose : Bool) (change : FlagChange)
    (ih : ∀ M ≤ N, ∀ branches items, Exact 0 M (body fuel branches items)
      (body fuel' branches items)) :
    Exact 0 N
      (body fuel [] [] >>= fun inside => closeGroup verbose >>= fun _ =>
        body fuel branches (items ++ [.group change inside]))
      (body fuel' [] [] >>= fun inside => closeGroup verbose >>= fun _ =>
        body fuel' branches (items ++ [.group change inside])) := by
  refine .of_steady (ih N (Nat.le_refl N) [] []).steady (body_takes _ _ _)
    (fun _ => closeGroup_body_closes _ _ _ _) (fun _ => (closeGroup_body_closes _ _ _ _).starved)
    fun inside M hM => ?_
  exact ((closeGroup_whole verbose).exact M).bind (closeGroup_whole _).takes.zero
    (fun _ => body_takes _ _ _) (fun _ => body_calm _ _ _) fun _ K hK => ih K (by omega) _ _

theorem group_exact (ih : ∀ M < N, ∀ branches items, Exact 0 M (body fuel branches items)
      (body fuel' branches items)) :
    Exact 1 N
      (groupStart >>= fun start => match start with
        | .flags change => verboseAfter change >>= fun _ =>
          body fuel branches (items ++ [.flags change])
        | .group change => MonadState.get >>= fun c : Cursor => verboseAfter change >>= fun _ =>
          body fuel [] [] >>= fun inside => closeGroup c.verbose >>= fun _ =>
            body fuel branches (items ++ [.group change inside]))
      (groupStart >>= fun start => match start with
        | .flags change => verboseAfter change >>= fun _ =>
          body fuel' branches (items ++ [.flags change])
        | .group change => MonadState.get >>= fun c : Cursor => verboseAfter change >>= fun _ =>
          body fuel' [] [] >>= fun inside => closeGroup c.verbose >>= fun _ =>
            body fuel' branches (items ++ [.group change inside])) := by
  have hinside (verbose : Bool) (change : FlagChange) : Closes (body fuel [] [] >>= fun inside =>
      closeGroup verbose >>= fun _ => body fuel branches (items ++ [.group change inside])) :=
    ⟨.second (Nat.le_refl 1) (body_takes _ _ _) fun _ => (closeGroup_body_closes _ _ _ _).takes,
      .second (body_takes _ _ _) fun _ => (closeGroup_body_closes _ _ _ _).starved⟩
  refine groupStart_bind (fun change => (verboseAfter_takes _).first fun _ => body_takes _ _ _)
    (fun change => ?_) fun start M hM => ?_
  · exact ⟨.get fun _ => .second (Nat.le_refl 1) (verboseAfter_takes _) fun _ =>
        (hinside _ _).takes,
      .get fun _ => .second (verboseAfter_takes _) fun _ => (hinside _ _).starved⟩
  · have hle {change : FlagChange} {c d : Cursor} {a : Unit}
        (hrun : (verboseAfter change).run c = some (a, d)) : d.rest.length ≤ c.rest.length :=
      (verboseAfter_takes _ hrun).1.length_le
    cases start with
    | flags change =>
      exact .plain_bind (verboseAfter_plain _) (verboseAfter_takes _) (fun _ => body_takes _ _ _)
        fun c _ d _ hcM hrun => ih _ (by have := hle hrun; omega) _ _
    | group change =>
      exact .get_verbose (f := fun verbose => _) fun verbose => .plain_bind (verboseAfter_plain _)
        (verboseAfter_takes _) (fun _ => (hinside _ _).takes.zero) fun c _ d _ hcM hrun =>
          inside_exact branches items verbose change fun K hK => ih K (by have := hle hrun; omega)

end

/-- What stands behind alternatives plays no role, up to a comment. -/
theorem body_exact {N fuel fuel' : Nat} (branches items : List Node) (h : N < fuel') :
    Exact 0 N (body fuel branches items) (body fuel' branches items) := by
  induction fuel generalizing N fuel' branches items with
  | zero => exact .failure
  | succ fuel ih =>
    obtain _ | fuel' := fuel'
    · omega
    have next {γ : Type} {m : Reader γ} (hm : Token m) (branches : List Node)
        (items : γ → List Node) : Exact 1 N (m >>= fun a => body fuel branches (items a))
          (m >>= fun a => body fuel' branches (items a)) :=
      (hm.exact N).bind hm.takes (fun _ => body_takes _ _ _) (fun _ => body_calm _ _ _)
        fun a M hM => ih _ _ (by omega)
    refine .skip_peek? (body_takes (fuel + 1) branches items)
      (bump_takes.first fun _ => body_takes _ _ _) ⟨rfl, rfl⟩ ⟨rfl, rfl⟩ fun x hx => ?_
    have hrepeat {γ : Type} {m : Reader γ} (hm : Token m) (items : List Node)
        (bounds : γ → Nat × Option Nat) : Exact 1 N
          (m >>= fun a => repeatLast items (bounds a).1 (bounds a).2 >>=
            fun items => body fuel branches items)
          (m >>= fun a => repeatLast items (bounds a).1 (bounds a).2 >>=
            fun items => body fuel' branches items) := by
      have := next (hm.bind fun a => repeatLast_still items (bounds a).1 (bounds a).2) branches id
      simpa only [bind_assoc, id] using this
    dsimp only
    split
    · exact .pure _
    · exact .pure _
    · exact next bump_token _ fun _ => []
    · exact group_exact branches items fun M hM branches items => ih _ _ (by omega)
    · exact next bracketed_whole.token _ _
    · exact hrepeat lazyMark_token items fun _ => (0, some 1)
    · exact hrepeat lazyMark_token items fun _ => (0, none)
    · exact hrepeat lazyMark_token items fun _ => (1, none)
    · exact hrepeat counted_whole.token items id
    · rw [escape_body, escape_body]
      exact next escape_settle_token _ _
    · exact next bump_token _ _

end BuildQueue.Pattern
