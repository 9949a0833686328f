import BuildQueue.Proofs.Store.Writes
import Mathlib.Data.List.Chain

/-!
# Histories of a status

The writes that the transition table allows one after the other (`History`). Once a job has ended,
nothing is written until it is pushed again; and each time that a job gets a slot, it ends once at
most.
-/

namespace BuildQueue

/-- The write may be made over a status that was `before` until then. -/
def StatusWrite.Legal (before : Option String) : StatusWrite → Prop
  | .queued => before = none ∨ ∃ state : QueueState, before = some state.name ∧
    (state = .queued ∨ state.isTerminal = true)
  | .admitted => before = some QueueState.queued.name
  | .swapped expected next => before = some expected ∧
    ∃ state target : QueueState, expected = state.name ∧ next = target.name ∧
      state.canBecome target = true ∧ target ≠ .starting

/-- The write ends the job. -/
def StatusWrite.ends : StatusWrite → Bool
  | .swapped _ next => (QueueState.ofName? next).any QueueState.isTerminal
  | _ => false

/-- The job is at work after the write. -/
def StatusWrite.busy (w : StatusWrite) : Bool :=
  w.text = QueueState.starting.name || w.text = QueueState.started.name

/-- The write ends a job at work. -/
def StatusWrite.finishes : StatusWrite → Bool
  | .swapped expected next =>
    expected ≠ QueueState.queued.name && (QueueState.ofName? next).any QueueState.isTerminal
  | _ => false

/-- The write is made over a status, and a push is not needed for it. -/
def StatusWrite.Next (w w' : StatusWrite) : Prop := w' = .queued ∨ w'.Legal (some w.text)

/-- The writes of a status, the first one first: a push may come at any time, and any other write
where it is legal over the one before. -/
inductive History : List StatusWrite → Prop where
  | nil : History []
  | snoc {writes : List StatusWrite} {w : StatusWrite} (h : History writes)
    (hw : w = .queued ∨ ∃ last, writes.getLast? = some last ∧ w.Legal (some last.text)) :
    History (writes ++ [w])

/-! ## After the end of a job -/

theorem StatusWrite.terminal_of_ends {w : StatusWrite} (h : w.ends = true) :
    ∃ state : QueueState, state.isTerminal = true ∧ w.text = state.name := by
  cases w with
  | queued => cases h
  | admitted => cases h
  | swapped expected next =>
    rw [StatusWrite.ends, Option.any_eq_true] at h
    obtain ⟨state, hname, ht⟩ := h
    have hn := List.find?_some hname
    exact ⟨state, ht, (eq_of_beq hn).symm⟩

/-- Only a push follows a write that ends the job. -/
theorem StatusWrite.queued_of_next {w w' : StatusWrite} (hw : w.ends = true) (h : w.Next w') :
    w' = .queued := by
  obtain ⟨state, ht, htext⟩ := StatusWrite.terminal_of_ends hw
  rcases h with rfl | h
  · rfl
  · rw [htext] at h
    cases w' with
    | queued => rfl
    | admitted =>
      rw [QueueState.name_inj (Option.some.inj h)] at ht
      cases ht
    | swapped expected next =>
      obtain ⟨he, current, target, rfl, -, hcan, -⟩ := h
      rw [QueueState.name_inj (Option.some.inj he)] at ht
      rw [QueueState.canBecome, List.isEmpty_iff.1 ht] at hcan
      cases hcan

/-- A write over the last one ends a job only if that one left it at work, and only an admission
sets to work a job that was not. -/
theorem StatusWrite.finishes_add_busy_le {last w : StatusWrite} (h : w.Legal (some last.text)) :
    (if w.finishes = true then 1 else 0) + w.busy.toNat ≤
      (if (w == .admitted) = true then 1 else 0) + last.busy.toNat := by
  cases w with
  | queued => exact Nat.zero_le _
  | admitted => exact Nat.le_add_right 1 _
  | swapped expected next =>
    obtain ⟨he, current, target, rfl, rfl, hcan, hn⟩ := h
    unfold busy
    rw [Option.some.inj he]
    simp only [finishes, text, QueueState.ofName?_name]
    revert hcan hn
    cases current <;> cases target <;> decide

/-- A write of a state that ends the job is an end. -/
theorem StatusWrite.ends_of_text {w : StatusWrite} {state : QueueState}
    (ht : w.text = state.name) (h : state.isTerminal = true) : w.ends = true := by
  cases w with
  | queued =>
    obtain rfl : QueueState.queued = state := QueueState.name_inj ht
    cases h
  | admitted =>
    obtain rfl : QueueState.starting = state := QueueState.name_inj ht
    cases h
  | swapped expected next =>
    obtain rfl : next = state.name := ht
    rw [ends, QueueState.ofName?_name, Option.any_some, h]

/-- An end that no waiting job comes to is the end of a job at work. -/
theorem StatusWrite.finishes_of_text {w : StatusWrite} {before : Option String} {state : QueueState}
    (hw : w.Legal before) (ht : w.text = state.name) (h : state.isTerminal = true)
    (hq : QueueState.queued.canBecome state = false) : w.finishes = true := by
  have hends := StatusWrite.ends_of_text ht h
  cases w with
  | queued => cases hends
  | admitted => cases hends
  | swapped expected next =>
    obtain ⟨-, current, target, rfl, rfl, hcan, -⟩ := hw
    obtain rfl := QueueState.name_inj ht
    have hne : current.name ≠ QueueState.queued.name := fun e => by
      rw [QueueState.name_inj e, hq] at hcan
      cases hcan
    rw [finishes, Bool.and_eq_true]
    exact ⟨decide_eq_true hne, hends⟩

namespace History

variable {writes before mid after : List StatusWrite}

theorem legal_of_mem (h : History writes) {w : StatusWrite} (hw : w ∈ writes) :
    w = .queued ∨ ∃ before, w.Legal before := by
  induction h with
  | nil => cases hw
  | @snoc writes last _ hlast ih =>
    rcases List.mem_append.1 hw with hw | hw
    · exact ih hw
    · obtain rfl := List.mem_singleton.1 hw
      exact hlast.imp_right fun ⟨_, _, hlegal⟩ => ⟨_, hlegal⟩

theorem isChain (h : History writes) : writes.IsChain StatusWrite.Next := by
  induction h with
  | nil => exact .nil
  | @snoc writes w' _ hw ih =>
    refine List.isChain_append.2 ⟨ih, .singleton w', ?_⟩
    rintro w hlast _ hhead
    obtain rfl : w' = _ := by simpa using hhead
    rcases hw with rfl | ⟨last, hw, hlegal⟩
    · exact .inl rfl
    · obtain rfl : w = last := Option.some.inj (hlast.symm.trans hw)
      exact .inr hlegal

/-- Nothing is written after the end of a job until it is pushed again. -/
theorem eq_nil_of_ends {w : StatusWrite} (h : History writes)
    (hw : w.ends = true) (hm : .queued ∉ mid) (hs : writes = before ++ w :: (mid ++ after)) :
    mid = [] := by
  cases mid with
  | nil => rfl
  | cons w' mid =>
    have hnext := List.isChain_iff_forall_rel_of_append_cons_cons.1 h.isChain hs
    exact absurd (StatusWrite.queued_of_next hw hnext ▸ List.mem_cons_self) hm

/-- The next write after the end of a job is a push. -/
theorem queued_of_ends (h : History writes) {n : Nat} {w : StatusWrite}
    (hw : writes[n]? = some w) (he : w.ends = true) (hn : n + 1 < writes.length) :
    writes[n + 1]? = some .queued := by
  obtain ⟨hlt, rfl⟩ := List.getElem?_eq_some_iff.1 hw
  have hnext := List.isChain_iff_getElem.1 h.isChain n hn
  rw [List.getElem?_eq_getElem hn, StatusWrite.queued_of_next he hnext]

/-- Between two pushes a job ends once at most. -/
theorem countP_ends_le (h : History writes) (hm : .queued ∉ mid)
    (hs : writes = before ++ mid ++ after) : mid.countP StatusWrite.ends ≤ 1 := by
  induction mid generalizing before with
  | nil => exact Nat.zero_le _
  | cons w mid ih =>
    have hrest : .queued ∉ mid := fun hq => hm (List.mem_cons_of_mem _ hq)
    cases hw : w.ends with
    | true =>
      have hsplit : writes = before ++ w :: (mid ++ after) := by rw [hs]; simp
      simp [h.eq_nil_of_ends hw hrest hsplit, hw]
    | false =>
      have hsplit : writes = (before ++ [w]) ++ mid ++ after := by rw [hs]; simp
      simpa [hw] using ih hrest hsplit

/-- A job at work was admitted, and each admission lets one job end at most. -/
theorem countP_finishes_le (h : History writes) :
    writes.countP StatusWrite.finishes + (writes.getLast?.any StatusWrite.busy).toNat ≤
      writes.count .admitted := by
  induction h with
  | nil => exact Nat.le_refl _
  | @snoc writes w _ hw ih =>
    rw [List.countP_append, List.count_append, List.getLast?_concat, Option.any_some,
      List.countP_singleton, List.count_singleton]
    rcases hw with rfl | ⟨last, hlast, hlegal⟩
    · have hb : StatusWrite.busy .queued = false := by decide
      rw [hb]
      simp only [StatusWrite.finishes, Bool.toNat_false, Bool.false_eq_true, if_false]
      omega
    · have hstep := StatusWrite.finishes_add_busy_le hlegal
      rw [hlast, Option.any_some] at ih
      omega

/-- A job that was admitted once and is at work has not ended at work. -/
theorem not_finishes_of_busy (h : History writes) (hadm : writes.count .admitted ≤ 1)
    {last : StatusWrite} (hlast : writes.getLast? = some last) (hb : last.busy = true)
    {w : StatusWrite} (hw : w ∈ writes) : w.finishes = false := by
  have hle := h.countP_finishes_le
  rw [hlast, Option.any_some, hb, Bool.toNat_true] at hle
  refine Bool.eq_false_iff.2 fun hf => ?_
  have hpos := List.countP_pos_iff.2 ⟨w, hw, hf⟩
  omega

/-- An end that no waiting job comes to is reached once at most for each admission. -/
theorem countP_text_le (h : History writes) {state : QueueState} (ht : state.isTerminal = true)
    (hq : QueueState.queued.canBecome state = false) :
    writes.countP (·.text = state.name) ≤ writes.count .admitted := by
  refine Nat.le_trans (List.countP_mono_left fun w hw htext => ?_)
    (Nat.le_trans (Nat.le_add_right _ _) h.countP_finishes_le)
  have htext := of_decide_eq_true htext
  rcases h.legal_of_mem hw with rfl | ⟨before, hlegal⟩
  · have := StatusWrite.ends_of_text htext ht
    cases this
  · exact StatusWrite.finishes_of_text hlegal htext ht hq

/-- Between two pushes a job comes to one end only. -/
theorem eq_of_ends (h : History writes) (hm : .queued ∉ mid) (hs : writes = before ++ mid ++ after)
    {w w' : StatusWrite} (hw : w ∈ mid) (hw' : w' ∈ mid) (he : w.ends = true)
    (he' : w'.ends = true) : w = w' := by
  have hlast : ∀ v ∈ mid, v.ends = true → mid.getLast? = some v := fun v hv hev => by
    obtain ⟨first, rest, rfl⟩ := List.append_of_mem hv
    have hq : .queued ∉ rest := fun hq =>
      hm (List.mem_append_right _ (List.mem_cons_of_mem _ hq))
    have hsplit : writes = (before ++ first) ++ v :: (rest ++ after) := by rw [hs]; simp
    rw [h.eq_nil_of_ends hev hq hsplit, List.getLast?_concat]
  exact Option.some.inj ((hlast w hw he).symm.trans (hlast w' hw' he'))

end History

end BuildQueue
