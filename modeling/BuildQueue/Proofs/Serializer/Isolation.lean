import BuildQueue.Proofs.Serializer.Endings

/-!
# Keys do not touch each other

The tasks of one key, in a run with others, do at the same times and in the same order what they do
in a run of their own (`Timeline.events_isolated`). Of a run with all tasks one keeps in view those
of the key, by their numbers among themselves (`Timeline.rank?`). What a task in view does, its
image does in the run of its own, and what another task does is not seen (`Timeline.Mirror`): it
neither has the turn of the key nor passes it on. Time may be ahead where only others have something
to do, but then nobody in view can go on (`Timeline.Follows`).
-/

namespace BuildQueue

/-! ## Calls in view -/

/-- No two have the same number. -/
def Distinguishes (view : Nat → Option Nat) : Prop :=
  ∀ i j m, view i = some m → view j = some m → i = j

/-- It does not matter whether one leaves out first or looks first, if what is seen tells what is left
out. -/
theorem filterMap_filter_eq {α β : Type} {f : α → Option β} {p : α → Bool} {q : β → Bool}
    (h : ∀ a b, f a = some b → p a = q b) (l : List α) :
    (l.filter p).filterMap f = (l.filterMap f).filter q := by
  rw [List.filterMap_filter, List.filter_filterMap]
  refine List.filterMap_congr fun a _ => ?_
  cases hf : f a with
  | none => simp
  | some b => rw [Option.filter_some, h a b hf]

section Views

variable {view : Nat → Option Nat} {i m : Nat}

/-- With one in view its number is left out, and nothing else. -/
theorem ne_iff_of_view (hv : Distinguishes view) (h : view i = some m) {j m' : Nat}
    (hj : view j = some m') : j ≠ i ↔ m' ≠ m := by
  refine not_congr ⟨?_, ?_⟩
  · rintro rfl
    exact Option.some.inj (hj.symm.trans h)
  · rintro rfl
    exact hv j i m' hj h

theorem filterMap_filter_ne (hv : Distinguishes view) (h : view i = some m) (line : List Nat) :
    (line.filter (· ≠ i)).filterMap view = (line.filterMap view).filter (· ≠ m) :=
  filterMap_filter_eq (fun _ _ hj => decide_eq_decide.2 (ne_iff_of_view hv h hj)) line

theorem head?_filterMap_view {line : List Nat} (hline : ∀ j ∈ line, (view j).isSome = true) :
    (line.filterMap view).head? = line.head?.bind view := by
  cases line with
  | nil => rfl
  | cons j rest =>
    obtain ⟨m', hj⟩ := Option.isSome_iff_exists.1 (hline j List.mem_cons_self)
    rw [List.filterMap_cons_some hj, List.head?_cons, List.head?_cons, Option.bind_some, hj]

theorem bind_view_eq_some (hv : Distinguishes view) (h : view i = some m) {o : Option Nat} :
    o.bind view = some m ↔ o = some i := by
  constructor
  · intro ho
    obtain ⟨j, rfl, hj⟩ := Option.bind_eq_some_iff.1 ho
    rw [hv j i m hj h]
  · rintro rfl
    exact h

end Views

namespace Serializer

/-- The calls in view, by their numbers. -/
def viewed (view : Nat → Option Nat) (calls : List (Nat × String)) : List (Nat × String) :=
  calls.filterMap fun c => (view c.1).map (·, c.2)

/-- The calls of the second serializer are those of the first that are in view, and these are the
calls of the key. -/
def Shows (view : Nat → Option Nat) (key : String) (s t : Serializer) : Prop :=
  ∃ calls, s.Serves calls ∧ t.Serves (viewed view calls) ∧
    ∀ call k, (call, k) ∈ calls → ((view call).isSome = true ↔ k = key)

section Viewed

variable {view : Nat → Option Nat} {calls : List (Nat × String)} {call m : Nat} {key k : String}
  {s t : Serializer}

theorem mem_viewed :
    (m, k) ∈ viewed view calls ↔ ∃ call, (call, k) ∈ calls ∧ view call = some m := by
  simp [viewed]

theorem lineOf_viewed (view : Nat → Option Nat) (calls : List (Nat × String)) (k : String) :
    lineOf (viewed view calls) k = (lineOf calls k).filterMap view := by
  induction calls with
  | nil => rfl
  | cons c calls ih =>
    by_cases hk : c.2 = k <;> cases hc : view c.1 <;> simp_all [viewed, lineOf]

theorem viewed_append (view : Nat → Option Nat) (calls : List (Nat × String)) (call : Nat)
    (k : String) : viewed view (calls ++ [(call, k)]) =
      (view call).elim (viewed view calls) fun m => viewed view calls ++ [(m, k)] := by
  cases h : view call <;> simp [viewed, h]

theorem viewed_without (hv : Distinguishes view) (calls : List (Nat × String)) (call : Nat) :
    viewed view (without calls call) =
      (view call).elim (viewed view calls) (without (viewed view calls)) := by
  cases h : view call with
  | none =>
    unfold viewed without
    rw [List.filterMap_filter]
    refine List.filterMap_congr fun c _ => ?_
    by_cases e : c.1 = call <;> simp [e, h]
  | some m =>
    refine filterMap_filter_eq (fun c c' hc => ?_) calls
    obtain ⟨m', hm', rfl⟩ := Option.map_eq_some_iff.1 hc
    exact decide_eq_decide.2 (ne_iff_of_view hv h hm')

namespace Shows

theorem keyOf? (hv : Distinguishes view) (h : Shows view key s t) (hm : view call = some m) :
    t.keyOf? m = s.keyOf? call := by
  obtain ⟨calls, hs, ht, -⟩ := h
  refine Option.ext fun k => ?_
  rw [hs.keyOf?_eq_some, ht.keyOf?_eq_some, mem_viewed]
  constructor
  · rintro ⟨other, ho, hview⟩
    rwa [← hv other call m hview hm]
  · exact fun hk => ⟨call, hk, hm⟩

/-- Nobody else is in a line with a call in view. -/
theorem isSome_view_of_line {calls : List (Nat × String)}
    (h : ∀ call k, (call, k) ∈ calls → ((view call).isSome = true ↔ k = key))
    (hc : (call, k) ∈ calls) (hm : view call = some m) :
    ∀ other ∈ lineOf calls k, (view other).isSome = true := fun other ho =>
  (h other k (mem_lineOf.1 ho)).2 ((h call k hc).1 (by rw [hm]; rfl))

theorem hasTurn (hv : Distinguishes view) (h : Shows view key s t) (hm : view call = some m) :
    t.hasTurn m = s.hasTurn call := by
  obtain ⟨calls, hs, ht, hkey⟩ := h
  have hhead : ∀ k, (call, k) ∈ calls →
      ((lineOf (viewed view calls) k).head? = some m ↔ (lineOf calls k).head? = some call) := by
    intro k hk
    rw [lineOf_viewed, head?_filterMap_view (isSome_view_of_line hkey hk hm),
      bind_view_eq_some hv hm]
  rw [Bool.eq_iff_iff, hs.hasTurn_iff, ht.hasTurn_iff]
  constructor
  · rintro ⟨k, hk, hfirst⟩
    obtain ⟨other, ho, hview⟩ := mem_viewed.1 hk
    obtain rfl := hv other call m hview hm
    exact ⟨k, ho, (hhead k ho).1 hfirst⟩
  · rintro ⟨k, hk, hfirst⟩
    exact ⟨k, mem_viewed.2 ⟨call, hk, hm⟩, (hhead k hk).2 hfirst⟩

theorem arrive (hv : Distinguishes view) (h : Shows view key s t) (hc : s.keyOf? call = none)
    (hk : (view call).isSome = true ↔ k = key) :
    Shows view key (s.arrive call k) ((view call).elim t (t.arrive · k)) := by
  have hnone := fun m hm => (h.keyOf? hv (m := m) hm).trans hc
  obtain ⟨calls, hs, ht, hkey⟩ := h
  refine ⟨calls ++ [(call, k)], hs.arrive (hs.not_mem hc) k, ?_, fun other k' ho => ?_⟩
  · rw [viewed_append]
    cases hm : view call with
    | none => exact ht
    | some m => exact ht.arrive (ht.not_mem (hnone m hm)) k
  · rcases List.mem_append.1 ho with ho | ho
    · exact hkey other k' ho
    · obtain ⟨rfl, rfl⟩ : other = call ∧ k' = k := by simpa using ho
      exact hk

theorem leave (hv : Distinguishes view) (h : Shows view key s t) (call : Nat) :
    Shows view key (s.leave call).2 ((view call).elim t fun m => (t.leave m).2) := by
  have hnone : ∀ m, view call = some m → t.keyOf? m = s.keyOf? call := fun m hm => h.keyOf? hv hm
  cases hc : s.keyOf? call with
  | none =>
    rw [leave_of_none hc]
    cases hm : view call with
    | none => exact h
    | some m =>
      rw [Option.elim_some, leave_of_none ((hnone m hm).trans hc)]
      exact h
  | some k =>
    obtain ⟨calls, hs, ht, hkey⟩ := h
    have hmem := hs.keyOf?_eq_some.1 hc
    refine ⟨without calls call, hs.leave hmem, ?_, fun other k' ho =>
      hkey other k' (mem_without.1 ho).1⟩
    rw [viewed_without hv]
    cases hm : view call with
    | none => exact ht
    | some m => exact ht.leave (mem_viewed.2 ⟨call, hmem, hm⟩)

/-- A call in view tells the image of the one that it tells, and a call out of view tells nobody in
view. -/
theorem leave_fst (hv : Distinguishes view) (h : Shows view key s t) (call : Nat) :
    (view call).bind (fun m => (t.leave m).1) = (s.leave call).1.bind view := by
  have hnone : ∀ m, view call = some m → t.keyOf? m = s.keyOf? call := fun m hm => h.keyOf? hv hm
  cases hc : s.keyOf? call with
  | none =>
    rw [leave_of_none hc]
    cases hm : view call with
    | none => rfl
    | some m =>
      rw [Option.bind_some, leave_of_none ((hnone m hm).trans hc)]
      rfl
  | some k =>
    obtain ⟨calls, hs, ht, hkey⟩ := h
    have hmem := hs.keyOf?_eq_some.1 hc
    rw [hs.leave_fst hmem]
    cases hm : view call with
    | none =>
      -- Those in line with it are of its key, so they are not in view either.
      symm
      rw [Option.bind_none, Option.bind_eq_none_iff]
      intro other ho
      split at ho
      · have hline := (List.mem_filter.1 (List.mem_of_head? ho)).1
        have hiff := (hkey other k (mem_lineOf.1 hline)).trans (hkey call k hmem).symm
        rw [hm] at hiff
        simpa using hiff
      · cases ho
    | some m =>
      have hline := isSome_view_of_line hkey hmem hm
      rw [Option.bind_some, ht.leave_fst (mem_viewed.2 ⟨call, hmem, hm⟩), lineOf_viewed,
        ← filterMap_filter_ne hv hm, head?_filterMap_view hline,
        head?_filterMap_view fun other ho => hline other (List.mem_filter.1 ho).1]
      simp only [bind_view_eq_some hv hm]
      split <;> rfl

end Shows

end Viewed

end Serializer

/-! ## Runs in view -/

namespace Timeline

/-- An event of a task in view, by the number of the task. -/
def Event.view (view : Nat → Option Nat) : Event → Option Event
  | .pending _ => none
  | .start n => (view n).map .start
  | .finish n => (view n).map .finish
  | .returned n => (view n).map .returned
  | .cancelled n => (view n).map .cancelled

/-- The events of the tasks in view, with their times. -/
def inView (view : Nat → Option Nat) (log : List (Nat × Event)) : List (Nat × Event) :=
  log.filterMap fun e => (e.2.view view).map (e.1, ·)

namespace State

/-- What a task does that is in view, if it is in view, by its number. -/
def act (m : Option Nat) (f : State → Nat → State) (s : State) : State := m.elim s (f s)

@[simp] theorem act_none (f : State → Nat → State) (s : State) : s.act none f = s := rfl

@[simp] theorem act_some (m : Nat) (f : State → Nat → State) (s : State) :
    s.act (some m) f = f s m := rfl

theorem leave_eq_act (s : State) (n : Nat) : s.leave n =
    State.act (s.serializer.leave n).1 wake { s with serializer := (s.serializer.leave n).2 } := by
  rcases s.leave_cases n with ⟨hnone, h⟩ | ⟨m, hm, h⟩
  · rw [h, hnone, act_none]
  · rw [h, hm, act_some]

end State

/-- The second state is what one sees of the first with the tasks of the key in view. -/
structure Mirror (view : Nat → Option Nat) (key : String) (s t : State) : Prop where
  now : t.now = s.now
  keyed : ∀ n task, s.tasks[n]? = some task → ((view n).isSome = true ↔ task.key = some key)
  tasks : ∀ n m, view n = some m → t.tasks[m]? = s.tasks[n]?
  phases : ∀ n m, view n = some m → t.phases[m]? = s.phases[n]?
  serializer : Serializer.Shows view key s.serializer t.serializer
  ready : t.ready = s.ready.filterMap view
  timers : t.timers = s.timers.filterMap fun d => (view d.2).map (d.1, ·)
  log : t.log = inView view s.log

namespace Mirror

variable {view : Nat → Option Nat} {key : String} {s t : State} {n : Nat}

theorem emit (h : Mirror view key s t) (e : Nat → Event)
    (he : ∀ n, (e n).view view = (view n).map e) (n : Nat) :
    Mirror view key (s.emit (e n)) (t.act (view n) fun t m => t.emit (e m)) := by
  have hlog : inView view (s.emit (e n)).log =
      ((view n).map fun m => (s.now, e m)).toList ++ inView view s.log := by
    cases hn : view n <;> simp [State.emit, inView, he, hn]
  cases hn : view n with
  | none =>
    refine ⟨h.now, h.keyed, h.tasks, h.phases, h.serializer, h.ready, h.timers, ?_⟩
    rw [hlog, hn]
    exact h.log
  | some m =>
    refine ⟨h.now, h.keyed, h.tasks, h.phases, h.serializer, h.ready, h.timers, ?_⟩
    rw [hlog, hn]
    show (t.now, e m) :: t.log = _
    rw [h.now, h.log]
    rfl

theorem setPhase (h : Mirror view key s t) (hv : Distinguishes view) (n : Nat) (p : Phase) :
    Mirror view key (s.setPhase n p) (t.act (view n) fun t m => t.setPhase m p) := by
  have hother : ∀ i m, view i = some m → i ≠ n → (s.setPhase n p).phases[i]? = s.phases[i]? :=
    fun i m _ hi => List.getElem?_set_ne (Ne.symm hi)
  cases hn : view n with
  | none =>
    refine ⟨h.now, h.keyed, h.tasks, fun i m hi => ?_, h.serializer, h.ready, h.timers, h.log⟩
    rw [hother i m hi (by rintro rfl; rw [hn] at hi; cases hi)]
    exact h.phases i m hi
  | some k =>
    refine ⟨h.now, h.keyed, h.tasks, fun i m hi => ?_, h.serializer, h.ready, h.timers, h.log⟩
    show (t.phases.set k p)[m]? = (s.phases.set n p)[i]?
    by_cases e : i = n
    · subst e
      obtain rfl := Option.some.inj (hn.symm.trans hi)
      rw [List.getElem?_set_self', List.getElem?_set_self', h.phases i k hn]
    · have hne : k ≠ m := by
        rintro rfl
        exact e (hv i n k hi hn)
      rw [List.getElem?_set_ne hne, List.getElem?_set_ne (Ne.symm e)]
      exact h.phases i m hi

theorem setTimer (h : Mirror view key s t) (time n : Nat) :
    Mirror view key (s.setTimer time n) (t.act (view n) fun t m => t.setTimer time m) := by
  cases hn : view n with
  | none =>
    refine ⟨h.now, h.keyed, h.tasks, h.phases, h.serializer, h.ready, ?_, h.log⟩
    simpa [State.setTimer, hn] using h.timers
  | some k =>
    refine ⟨h.now, h.keyed, h.tasks, h.phases, h.serializer, h.ready, ?_, h.log⟩
    simp [State.setTimer, hn, h.timers]

theorem wake (h : Mirror view key s t) (hv : Distinguishes view) (n : Nat) :
    Mirror view key (s.wake n) (t.act (view n) State.wake) := by
  cases hn : view n with
  | none =>
    unfold State.wake
    split
    · exact h
    · refine ⟨h.now, h.keyed, h.tasks, h.phases, h.serializer, ?_, h.timers, h.log⟩
      simpa [hn] using h.ready
  | some k =>
    have hmem : t.ready.contains k = s.ready.contains n := by
      rw [Bool.eq_iff_iff, List.contains_iff_mem, List.contains_iff_mem, h.ready,
        List.mem_filterMap]
      constructor
      · rintro ⟨i, hi, hk⟩
        rwa [← hv i n k hk hn]
      · exact fun hm => ⟨n, hm, hn⟩
    rw [State.act_some]
    unfold State.wake
    rw [hmem]
    split
    · exact h
    · refine ⟨h.now, h.keyed, h.tasks, h.phases, h.serializer, ?_, h.timers, h.log⟩
      simp [hn, h.ready]

theorem leave (h : Mirror view key s t) (hv : Distinguishes view) (n : Nat) :
    Mirror view key (s.leave n) (t.act (view n) State.leave) := by
  have hshows := h.serializer.leave hv n
  have htold := h.serializer.leave_fst hv n
  rw [State.leave_eq_act]
  cases hn : view n with
  | none =>
    rw [hn] at hshows htold
    have hleft : Mirror view key { s with serializer := (s.serializer.leave n).2 } t :=
      ⟨h.now, h.keyed, h.tasks, h.phases, hshows, h.ready, h.timers, h.log⟩
    cases hm : (s.serializer.leave n).1 with
    | none => exact hleft
    | some i =>
      rw [hm] at htold
      have hi : view i = none := htold.symm
      simpa [hi] using hleft.wake hv i
  | some m =>
    rw [hn] at hshows htold
    have hleft : Mirror view key { s with serializer := (s.serializer.leave n).2 }
        { t with serializer := (t.serializer.leave m).2 } :=
      ⟨h.now, h.keyed, h.tasks, h.phases, hshows, h.ready, h.timers, h.log⟩
    rw [State.act_some, State.leave_eq_act t]
    have htold' : (t.serializer.leave m).1 = (s.serializer.leave n).1.bind view := htold
    rw [htold']
    cases (s.serializer.leave n).1 with
    | none => exact hleft
    | some i => exact hleft.wake hv i

theorem isDue (h : Mirror view key s t) (deadline : Option Nat) :
    t.isDue deadline = s.isDue deadline := by
  rw [State.isDue, State.isDue, h.now]

theorem hasTurn (h : Mirror view key s t) (hv : Distinguishes view) {m : Nat}
    (hm : view n = some m) : t.serializer.hasTurn m = s.serializer.hasTurn n :=
  h.serializer.hasTurn hv hm

/-! ### Resumptions -/

theorem finish (h : Mirror view key s t) (hv : Distinguishes view) (n : Nat) :
    Mirror view key (s.finish n) (t.act (view n) State.finish) := by
  have hfinish := ((((h.emit .finish (fun _ => rfl) n).leave hv n).emit .returned
    (fun _ => rfl) n).setPhase hv n .over)
  cases hn : view n <;> rw [hn] at hfinish <;> exact hfinish

theorem cancel (h : Mirror view key s t) (hv : Distinguishes view) (n : Nat) :
    Mirror view key (s.cancel n) (t.act (view n) State.cancel) := by
  have hcancel := ((h.leave hv n).emit .cancelled (fun _ => rfl) n).setPhase hv n .over
  cases hn : view n <;> rw [hn] at hcancel <;> exact hcancel

theorem work (h : Mirror view key s t) (hv : Distinguishes view) (n hold : Nat)
    (deadline : Option Nat) : Mirror view key (s.work n hold deadline)
      (t.act (view n) fun t m => t.work m hold deadline) := by
  have hstart := h.emit .start (fun _ => rfl) n
  have hfinish := hstart.finish hv n
  have hcancel := hstart.cancel hv n
  have hwork := (hstart.setPhase hv n (.working (s.now + hold) deadline)).setTimer (s.now + hold) n
  have hdue := hstart.isDue deadline
  unfold State.work
  cases hn : view n with
  | none =>
    rw [hn] at hfinish hcancel hwork
    dsimp only
    split
    · exact hfinish
    split
    · exact hcancel
    · exact hwork
  | some m =>
    rw [hn] at hfinish hcancel hwork hdue
    have hnow : (t.emit (.start m)).now = s.now := h.now
    simp only [State.act_some] at hfinish hcancel hwork hdue ⊢
    rw [hdue, hnow]
    split
    · exact hfinish
    split
    · exact hcancel
    · exact hwork

theorem attempt (h : Mirror view key s t) (hv : Distinguishes view) (n hold : Nat)
    (deadline : Option Nat) : Mirror view key (s.attempt n hold deadline)
      (t.act (view n) fun t m => t.attempt m hold deadline) := by
  have hwork := h.work hv n hold deadline
  have hcancel := h.cancel hv n
  have hwait := h.setPhase hv n (.waiting deadline)
  unfold State.attempt
  cases hn : view n with
  | none =>
    rw [hn] at hwork hcancel hwait
    split
    · exact hwork
    split
    · exact hcancel
    · exact hwait
  | some m =>
    rw [hn] at hwork hcancel hwait
    rw [State.act_some, h.hasTurn hv hn, h.isDue]
    split
    · exact hwork
    split
    · exact hcancel
    · exact hwait

theorem setDeadline (h : Mirror view key s t) (n : Nat) (deadline : Option Nat) :
    Mirror view key (s.setDeadline n deadline)
      (t.act (view n) fun t m => t.setDeadline m deadline) := by
  unfold State.setDeadline
  cases deadline with
  | none => cases view n <;> exact h
  | some d =>
    have htimer := h.setTimer d n
    cases hn : view n with
    | none =>
      rw [hn] at htimer
      dsimp only
      split
      · exact h
      · exact htimer
    | some m =>
      rw [hn] at htimer
      simp only [State.act_some, h.phases n m hn]
      split
      · exact h
      · exact htimer

theorem arrive (h : Mirror view key s t) (hv : Distinguishes view) {n : Nat} {k : String}
    (hk : (view n).isSome = true ↔ k = key) (hn : s.serializer.keyOf? n = none) :
    Mirror view key { s with serializer := s.serializer.arrive n k }
      (t.act (view n) fun t m => { t with serializer := t.serializer.arrive m k }) := by
  have harrive := h.serializer.arrive hv hn hk
  cases hview : view n <;> rw [hview] at harrive <;>
    exact ⟨h.now, h.keyed, h.tasks, h.phases, harrive, h.ready, h.timers, h.log⟩

theorem enter (h : Mirror view key s t) (hv : Distinguishes view) {task : Task}
    (ht : s.tasks[n]? = some task) (hn : s.serializer.keyOf? n = none) :
    Mirror view key (s.enter n task) (t.act (view n) fun t m => t.enter m task) := by
  have hkeyed := h.keyed n task ht
  cases hkey : task.key with
  | none =>
    have hview : view n = none := by simpa [hkey] using hkeyed
    have hover := Mirror.setPhase (s := s.emit (.pending s.serializer.pendingKeys)) (t := t)
      ⟨h.now, h.keyed, h.tasks, h.phases, h.serializer, h.ready, h.timers, h.log⟩ hv n .over
    rw [hview] at hover ⊢
    rw [State.enter, hkey]
    exact hover
  | some k =>
    have hk : (view n).isSome = true ↔ k = key := by simpa [hkey] using hkeyed
    have henter := ((h.arrive hv hk hn).attempt hv n task.hold
      (task.timeout.map (s.now + ·))).setDeadline n (task.timeout.map (s.now + ·))
    rw [State.enter_of_key hkey]
    cases hview : view n with
    | none =>
      rw [hview] at henter
      exact henter
    | some m =>
      simp only [hview, State.act_some, h.now] at henter ⊢
      rw [State.enter_of_key hkey, h.now]
      exact henter

theorem resume (h : Mirror view key s t) (hv : Distinguishes view)
    (hn : s.phases[n]? = some .asleep → s.serializer.keyOf? n = none) :
    Mirror view key (s.resume n) (t.act (view n) State.resume) := by
  have hstay : Mirror view key s (t.act (view n) fun t _ => t) := by
    cases view n <;> exact h
  have htimer := fun time => h.setTimer time n
  have hwork := h.work hv n
  have hcancel := h.cancel hv n
  have hfinish := h.finish hv n
  have henter := fun (task : Task) (ht : s.tasks[n]? = some task)
    (hp : s.phases[n]? = some .asleep) => h.enter hv ht (hn hp)
  cases hview : view n with
  | none =>
    simp only [hview, State.act_none] at *
    unfold State.resume
    split
    · next task ht hp =>
      split
      · exact henter task ht hp
      · exact htimer task.start
    · split
      · exact hwork _ _
      split
      · exact hcancel
      · exact hstay
    · split
      · exact hfinish
      split
      · exact hcancel
      · exact hstay
    · exact hstay
  | some m =>
    have htask := h.tasks n m hview
    have hphase := h.phases n m hview
    simp only [hview, State.act_some] at htimer hwork hcancel hfinish henter ⊢
    unfold State.resume
    rw [htask, hphase]
    split
    · next task ht hp =>
      rw [h.now]
      split
      · exact henter task ht hp
      · exact htimer task.start
    · rw [h.hasTurn hv hview, h.isDue]
      split
      · exact hwork _ _
      split
      · exact hcancel
      · exact h
    · rw [h.now, h.isDue]
      split
      · exact hfinish
      split
      · exact hcancel
      · exact h
    · exact h

theorem wakeAll (h : Mirror view key s t) (hv : Distinguishes view) (due : List (Nat × Nat)) :
    Mirror view key (s.wakeAll due)
      (t.wakeAll (due.filterMap fun d => (view d.2).map (d.1, ·))) := by
  induction due generalizing s t with
  | nil => exact h
  | cons d due ih =>
    have hfirst := h.wake hv d.2
    have hrest := ih hfirst
    cases hd : view d.2 with
    | none =>
      rw [hd] at hrest
      rw [List.filterMap_cons_none (by rw [hd]; rfl)]
      exact hrest
    | some m =>
      rw [hd] at hrest
      rw [List.filterMap_cons_some (b := (d.1, m)) (by rw [hd]; rfl)]
      exact hrest

end Mirror

/-! ## Steps in view -/

/-- The run of the tasks in view has come as far as the run of all tasks. Its time may be behind
where nobody in view can go on. -/
def Follows (view : Nat → Option Nat) (key : String) (s t : State) : Prop :=
  Mirror view key s { t with now := s.now } ∧ (t.ready ≠ [] → t.now = s.now)

namespace Follows

variable {view : Nat → Option Nat} {key : String} {s s' t : State} {n : Nat}

theorem of_mirror (h : Mirror view key s t) : Follows view key s t := by
  refine ⟨?_, fun _ => h.now⟩
  rw [← h.now]
  exact h

/-- When somebody in view can go on, the second run resumes its image. -/
theorem resume (h : Follows view key s t) (hv : Distinguishes view) (hs : s.Sound none)
    {rest : List Nat} (hr : s.ready = n :: rest) : ∃ t', t.Leads t' ∧
      Follows view key (State.resume { s with ready := rest } n) t' := by
  obtain ⟨hm, hnow⟩ := h
  have hk : s.phases[n]? = some .asleep → s.serializer.keyOf? n = none := by
    intro hp
    by_contra hne
    obtain ⟨p, hp', hlive⟩ := (hs.settled n (by simp)).live.1 (Option.isSome_iff_ne_none.2 hne)
    rw [← Option.some.inj (hp.symm.trans hp')] at hlive
    cases hlive
  have hready : t.ready = (n :: rest).filterMap view := hr ▸ hm.ready
  cases hn : view n with
  | none =>
    have hpop : Mirror view key { s with ready := rest } { t with now := s.now } :=
      ⟨hm.now, hm.keyed, hm.tasks, hm.phases, hm.serializer,
        hready.trans (List.filterMap_cons_none hn), hm.timers, hm.log⟩
    have hresume := hpop.resume hv hk
    rw [hn] at hresume
    refine ⟨t, .refl, ?_, fun hne => (hnow hne).trans hresume.now⟩
    rw [← hresume.now]
    exact hresume
  | some m =>
    rw [List.filterMap_cons_some hn] at hready
    have hsame : t.now = s.now := hnow (by rw [hready]; exact List.cons_ne_nil _ _)
    have hpop : Mirror view key { s with ready := rest } { t with ready := rest.filterMap view } :=
      ⟨hsame, hm.keyed, hm.tasks, hm.phases, hm.serializer, rfl, hm.timers, hm.log⟩
    have hresume := hpop.resume hv hk
    rw [hn] at hresume
    refine ⟨_, .single ?_, of_mirror hresume⟩
    unfold State.step?
    rw [hready]
    rfl

/-- When time moves, it does so in the second run if a task in view is due. -/
theorem advance (h : Follows view key s t) (hv : Distinguishes view) (hr : s.ready = [])
    (hs' : s.advance = some s') : ∃ t', t.Leads t' ∧ Follows view key s' t' := by
  obtain ⟨hm, -⟩ := h
  obtain ⟨time, ⟨-, hmin⟩, rfl⟩ := State.advance_eq_some.1 hs'
  have hready : t.ready = [] := by
    have := hm.ready
    rwa [hr] at this
  -- The timers in view that are due are those that are due and in view.
  have hfilter : ∀ p : Nat → Bool, (t.timers.filter fun d => p d.1) =
      (s.timers.filter fun d => p d.1).filterMap fun d => (view d.2).map (d.1, ·) := by
    intro p
    have htimers : t.timers = s.timers.filterMap fun d => (view d.2).map (d.1, ·) := hm.timers
    rw [htimers]
    refine (filterMap_filter_eq (fun d d' hd => ?_) s.timers).symm
    obtain ⟨m, -, rfl⟩ := Option.map_eq_some_iff.1 hd
    rfl
  have hmoved : Mirror view key
      { s with now := time, timers := s.timers.filter fun d => !decide (d.1 = time) }
      { t with now := time, timers := t.timers.filter fun d => !decide (d.1 = time) } :=
    ⟨rfl, hm.keyed, hm.tasks, hm.phases, hm.serializer, hm.ready,
      hfilter fun x => !decide (x = time), hm.log⟩
  have hwoken := hmoved.wakeAll hv (s.timers.filter fun d => decide (d.1 = time))
  rw [← hfilter fun x => decide (x = time)] at hwoken
  by_cases hdue : (t.timers.filter fun d => decide (d.1 = time)) = []
  · have hlater : (t.timers.filter fun d => !decide (d.1 = time)) = t.timers := by
      refine List.filter_eq_self.2 fun d hd => ?_
      simpa using List.filter_eq_nil_iff.1 hdue d hd
    rw [hdue, hlater] at hwoken
    refine ⟨t, .refl, ?_, fun hne => absurd hready hne⟩
    rw [← hwoken.now]
    exact hwoken
  · obtain ⟨d, hd⟩ := List.exists_mem_of_ne_nil _ hdue
    obtain ⟨hd, htime⟩ := List.mem_filter.1 hd
    have hstep : t.step? = t.advance := by
      unfold State.step?
      rw [hready]
    refine ⟨_, .single (hstep.trans (State.advance_eq_some.2 ⟨time, ⟨?_, ?_⟩, rfl⟩)),
      of_mirror hwoken⟩
    · exact List.mem_map.2 ⟨d, hd, of_decide_eq_true htime⟩
    · rintro x hx
      obtain ⟨⟨x, m⟩, hd', rfl⟩ := List.mem_map.1 hx
      have htimers : t.timers = s.timers.filterMap fun d => (view d.2).map (d.1, ·) := hm.timers
      rw [htimers] at hd'
      obtain ⟨⟨x', i⟩, hi, heq⟩ := List.mem_filterMap.1 hd'
      obtain ⟨m', -, hm'⟩ := Option.map_eq_some_iff.1 heq
      obtain ⟨rfl, -⟩ := Prod.mk.inj hm'
      exact hmin x' (List.mem_map_of_mem hi)

/-- Whatever happens next, the second run follows. -/
theorem step (h : Follows view key s t) (hv : Distinguishes view) (hs : s.Sound none)
    (hstep : s.step? = some s') : ∃ t', t.Leads t' ∧ Follows view key s' t' := by
  unfold State.step? at hstep
  split at hstep
  · next n rest hr =>
    rw [← Option.some.inj hstep]
    exact h.resume hv hs hr
  · next hr => exact h.advance hv hr hstep

theorem leads (h : Follows view key s t) (hv : Distinguishes view) (hs : s.Sound none)
    (hleads : s.Leads s') : ∃ t', t.Leads t' ∧ Follows view key s' t' := by
  induction hleads using Relation.ReflTransGen.head_induction_on generalizing t with
  | refl => exact ⟨t, .refl, h⟩
  | head hstep _ ih =>
    obtain ⟨u, htu, hu⟩ := h.step hv hs hstep
    obtain ⟨t', hut, ht'⟩ := ih hu (State.sound_step hs hstep).1
    exact ⟨t', htu.trans hut, ht'⟩

/-- The second run ends where the first one does. -/
theorem quiet (h : Follows view key s t) (hs : s.step? = none) : t.step? = none := by
  obtain ⟨hm, -⟩ := h
  obtain ⟨hr, ht⟩ := State.step?_eq_none.1 hs
  refine State.step?_eq_none.2 ⟨?_, ?_⟩
  · have := hm.ready
    rwa [hr] at this
  · have := hm.timers
    rwa [ht] at this

end Follows

/-! ## The tasks of a key -/

/-- The number of a task among those of a key. -/
def rank? (key : String) (tasks : List Task) (n : Nat) : Option Nat :=
  if tasks[n]?.bind Task.key = some key then
    some ((tasks.take n).countP (·.key = some key))
  else none

section Ranks

variable {key : String} {tasks : List Task} {n m : Nat}

theorem rank?_cons_zero (key : String) (t : Task) (tasks : List Task) :
    rank? key (t :: tasks) 0 = if t.key = some key then some 0 else none := by
  simp [rank?]

theorem rank?_cons_succ (key : String) (t : Task) (tasks : List Task) (n : Nat) :
    rank? key (t :: tasks) (n + 1) =
      (rank? key tasks n).map (· + if t.key = some key then 1 else 0) := by
  simp only [rank?, List.getElem?_cons_succ, List.take_succ_cons, List.countP_cons]
  split <;> simp

theorem isSome_rank? {t : Task} (h : tasks[n]? = some t) :
    (rank? key tasks n).isSome = true ↔ t.key = some key := by
  rw [rank?, h, Option.bind_some]
  split <;> simp_all

theorem getElem?_filter_rank? (h : rank? key tasks n = some m) :
    (tasks.filter (·.key = some key))[m]? = tasks[n]? := by
  induction tasks generalizing n m with
  | nil => simp [rank?] at h
  | cons t tasks ih =>
    cases n with
    | zero =>
      rw [rank?_cons_zero] at h
      split at h
      · next hk =>
        obtain rfl := Option.some.inj h
        simp [hk]
      · cases h
    | succ n =>
      rw [rank?_cons_succ] at h
      obtain ⟨m', hm', rfl⟩ := Option.map_eq_some_iff.1 h
      by_cases hk : t.key = some key
      · simpa [hk] using ih hm'
      · simpa [hk] using ih hm'

theorem distinguishes_rank? (key : String) (tasks : List Task) :
    Distinguishes (rank? key tasks) := by
  induction tasks with
  | nil =>
    intro i j m hi
    simp [rank?] at hi
  | cons t tasks ih =>
    intro i j m hi hj
    -- The first of the key has the number 0, and those after it have greater ones.
    have hfirst : ∀ {n}, rank? key (t :: tasks) 0 = some m →
        rank? key (t :: tasks) (n + 1) ≠ some m := by
      intro n h0 hn
      rw [rank?_cons_zero] at h0
      split at h0
      · next hk =>
        obtain ⟨m', -, hm'⟩ := Option.map_eq_some_iff.1 (rank?_cons_succ .. ▸ hn)
        rw [if_pos hk] at hm'
        have := Option.some.inj h0
        omega
      · cases h0
    cases i with
    | zero =>
      cases j with
      | zero => rfl
      | succ j => exact absurd hj (hfirst hi)
    | succ i =>
      cases j with
      | zero => exact absurd hi (hfirst hj)
      | succ j =>
        obtain ⟨mi, hmi, hi'⟩ := Option.map_eq_some_iff.1 (rank?_cons_succ .. ▸ hi)
        obtain ⟨mj, hmj, hj'⟩ := Option.map_eq_some_iff.1 (rank?_cons_succ .. ▸ hj)
        obtain rfl : mi = mj := Nat.add_right_cancel (hi'.trans hj'.symm)
        exact congrArg (· + 1) (ih i j mi hmi hmj)

theorem filterMap_rank?_range (key : String) (tasks : List Task) :
    (List.range tasks.length).filterMap (rank? key tasks) =
      List.range (tasks.filter (·.key = some key)).length := by
  induction tasks with
  | nil => rfl
  | cons t tasks ih =>
    have hrest : ((List.range tasks.length).map Nat.succ).filterMap (rank? key (t :: tasks)) =
        ((List.range tasks.length).filterMap (rank? key tasks)).map
          (· + if t.key = some key then 1 else 0) := by
      rw [List.filterMap_map, List.map_filterMap]
      exact List.filterMap_congr fun n _ => rank?_cons_succ key t tasks n
    rw [List.length_cons, List.range_succ_eq_map, List.filterMap_cons, hrest, ih, rank?_cons_zero]
    by_cases hk : t.key = some key
    · simp [hk, List.range_succ_eq_map]
    · simp [hk]

end Ranks

/-- At first the tasks of a key, on their own, are what one sees of all tasks. -/
theorem follows_initial (key : String) (tasks : List Task) : Follows (rank? key tasks) key
    (initial tasks) (initial (tasks.filter (·.key = some key))) := by
  refine .of_mirror ⟨rfl, fun n task ht => isSome_rank? ht, fun n m hm => getElem?_filter_rank? hm,
    fun n m hm => ?_, ⟨[], .empty, .empty, fun _ _ h => by cases h⟩,
    (filterMap_rank?_range key tasks).symm, rfl, rfl⟩
  show ((tasks.filter (·.key = some key)).map fun _ => Phase.asleep)[m]? =
    (tasks.map fun _ => Phase.asleep)[n]?
  rw [List.getElem?_map, List.getElem?_map, getElem?_filter_rank? hm]

/-- The tasks of a key do in a run with others what they do in a run of their own, at the same times
and in the same order; and at the end of each run all tasks are over and no key is known. -/
theorem events_isolated (key : String) (tasks : List Task) :
    inView (rank? key tasks) (events tasks) = events (tasks.filter (·.key = some key)) ∧
      (∀ p ∈ (run tasks).phases, p = .over) ∧ (run tasks).serializer.pendingKeys = 0 := by
  obtain ⟨hquiet, hover, hzero⟩ := run_ends tasks
  refine ⟨?_, hover, hzero⟩
  obtain ⟨t, ht, hfollows⟩ := (follows_initial key tasks).leads (distinguishes_rank? key tasks)
    (sound_initial tasks) (State.leads_run (8 * tasks.length + 1) (initial tasks))
  obtain rfl : t = run (tasks.filter (·.key = some key)) :=
    ht.unique (State.leads_run _ _) (hfollows.quiet hquiet) (run_ends _).1
  have hlog : (run (tasks.filter (·.key = some key))).log =
      inView (rank? key tasks) (run tasks).log := hfollows.1.log
  rw [events, events, hlog, inView, inView, List.filterMap_reverse]

/-- Two tasks on `"repo"` and one on `"docs"`: the second on `"repo"` is given up while it waits, as
it would be if nobody worked on `"docs"`. -/
example : inView (rank? "repo" [⟨0, some "docs", 7, none⟩, ⟨0, some "repo", 9, none⟩,
      ⟨1, some "repo", 2, some 4⟩])
    (events [⟨0, some "docs", 7, none⟩, ⟨0, some "repo", 9, none⟩, ⟨1, some "repo", 2, some 4⟩]) =
    [(0, .start 0), (5, .cancelled 1), (9, .finish 0), (9, .returned 0)] := by decide +kernel

end Timeline

end BuildQueue
