import BuildQueue.Text.Fields

/-!
# Taking joined fields apart

`split_join`: fields without the separator are given back by `split` as they were given to `join`,
and `split` gives back nothing else (`split_eq_iff`).
-/

namespace BuildQueue.Text.Fields

variable {sep : Char}

theorem split_of_not_mem {s : List Char} (h : sep ∉ s) : split sep s = [s] := by
  induction s with
  | nil => rfl
  | cons c cs ih =>
    have hc : c ≠ sep := fun e => h (e ▸ List.mem_cons_self)
    have hcs : sep ∉ cs := fun m => h (List.mem_cons_of_mem _ m)
    rw [split, if_neg hc, ih hcs]

theorem split_append {s : List Char} (h : sep ∉ s) (rest : List Char) :
    split sep (s ++ sep :: rest) = s :: split sep rest := by
  induction s with
  | nil => rw [List.nil_append, split, if_pos rfl]
  | cons c cs ih =>
    have hc : c ≠ sep := fun e => h (e ▸ List.mem_cons_self)
    have hcs : sep ∉ cs := fun m => h (List.mem_cons_of_mem _ m)
    rw [List.cons_append, split, if_neg hc, ih hcs]

/-- Fields without the separator are given back as they were. -/
theorem split_join {fields : List (List Char)} (hne : fields ≠ [])
    (h : ∀ f ∈ fields, sep ∉ f) : split sep (join sep fields) = fields := by
  induction fields with
  | nil => exact absurd rfl hne
  | cons f rest ih =>
    have hf := h f List.mem_cons_self
    cases rest with
    | nil => exact split_of_not_mem hf
    | cons g rest =>
      rw [join, split_append hf, ih (by simp) fun x hx => h x (List.mem_cons_of_mem _ hx)]
      simp

theorem not_mem_of_mem_split (s : List Char) : ∀ f ∈ split sep s, sep ∉ f := by
  induction s with
  | nil => simp [split]
  | cons c cs ih =>
    unfold split
    split
    · simpa using ih
    · next hc =>
      obtain ⟨f, rest, hf⟩ := List.exists_cons_of_ne_nil (split_ne_nil sep cs)
      rw [hf] at ih ⊢
      simpa [Ne.symm hc] using ih

/-- The parts of a text are the one way to put it together from fields. -/
theorem split_eq_iff {s : List Char} {fields : List (List Char)} (hne : fields ≠ []) :
    split sep s = fields ↔ s = join sep fields ∧ ∀ f ∈ fields, sep ∉ f := by
  refine ⟨?_, fun ⟨hs, h⟩ => by rw [hs, split_join hne h]⟩
  rintro rfl
  exact ⟨(join_split sep s).symm, not_mem_of_mem_split s⟩

/-- A text falls apart in one way at the last occurrence of a character. -/
theorem append_cons_inj {s s' t t' : List Char} (ht : sep ∉ t)
    (ht' : sep ∉ t') : s ++ sep :: t = s' ++ sep :: t' ↔ s = s' ∧ t = t' := by
  refine ⟨fun h => ?_, by rintro ⟨rfl, rfl⟩; rfl⟩
  obtain ⟨more, hs, hm⟩ | ⟨more, hs, hm⟩ := List.append_eq_append_iff.1 h
  · cases more with
    | nil => simpa [eq_comm] using And.intro hs hm
    | cons c more =>
      obtain ⟨-, rfl⟩ := List.cons.inj hm
      exact absurd (by simp) ht
  · cases more with
    | nil => simpa [eq_comm] using And.intro hs hm
    | cons c more =>
      obtain ⟨-, rfl⟩ := List.cons.inj hm
      exact absurd (by simp) ht'

end BuildQueue.Text.Fields
