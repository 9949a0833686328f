import BuildQueue.BuildLog
import BuildQueue.Job.Hash
import BuildQueue.Proofs.Job.Key

/-!
# What makes two jobs the same

A job is known under five names: its identity, its hash, the canonical id of its change, the address
of its log and its written form. A change is its kind and its name, and so are its canonical id
(`JobRef.canonicalId_eq_iff`) and what is hashed of it (`JobRef.same_iff_hash_eq`); the address of a
log adds the repository (`logUrl_eq_iff`). The written form says more than that, since an update that
is aimed at another branch stays itself (`JobKey.same_iff`).
-/

namespace BuildQueue

open Text (Percent.encode Percent.encode_inj Percent.Plain Percent.plain_of_mem_encode Fields.join
  Fields.split_join)

/-- Texts are the same if no hasher tells them apart. -/
theorem Hasher.hash_eq_iff {s t : List String} : (∀ h : Hasher, h.hash s = h.hash t) ↔ s = t := by
  refine ⟨fun h => ?_, fun e h => e ▸ rfl⟩
  -- The hasher that keeps what it is fed and then says whether that is `s`.
  let h₀ : Hasher :=
    { State := List String
      start := []
      take := fun taken text => taken ++ [text]
      finish := fun taken => if taken = s then 1 else 0 }
  have htaken : ∀ l acc : List String, l.foldl h₀.take acc = acc ++ l := by
    intro l
    induction l with
    | nil => simp
    | cons a l ih =>
      intro acc
      rw [List.foldl_cons, ih]
      simp [h₀]
  have hs := h h₀
  simp only [Hasher.hash, htaken] at hs
  by_cases e : t = s
  · exact e.symm
  · simp [h₀, e] at hs

theorem RefKind.tag_inj {k k' : RefKind} : k.tag = k'.tag ↔ k = k' := by
  cases k <;> cases k' <;> decide

namespace JobRef

theorem same_iff {a b : JobRef} : a.same b = true ↔ a.kind = b.kind ∧ a.key = b.key := by
  simp [same, identity]

/-- Two changes that are the same differ at most in the branch that an update is aimed at. -/
theorem same_iff_eq_or {a b : JobRef} : a.same b = true ↔
    a = b ∨ ∃ id target target', a = .update id target ∧ b = .update id target' := by
  rw [same_iff]
  cases a <;> cases b <;> simp [kind, key]
  grind

/-- The canonical id is the kind and the name, since the words for the kinds are no beginnings of one
another. -/
theorem canonicalId_eq_iff {a b : JobRef} : a.canonicalId = b.canonicalId ↔ a.same b = true := by
  rw [same_iff]
  have happart : ∀ s t : String, "update" ++ "/" ++ s ≠ "branch" ++ "/" ++ t := by
    intro s t h
    have hl := congrArg String.toList h
    simp at hl
  cases a with
  | update id target =>
    cases b with
    | update id' target' => simp [canonicalId, kind, key]
    | branch name' => simpa [canonicalId, kind, RefKind.tag, key] using happart id name'
  | branch name =>
    cases b with
    | update id' target' =>
      simpa [canonicalId, kind, RefKind.tag, key] using (happart id' name).symm
    | branch name' => simp [canonicalId, kind, key]

theorem same_iff_hash_eq {a b : JobRef} :
    a.same b = true ↔ ∀ h : Hasher, a.hash h = b.hash h := by
  simp [hash, Hasher.hash_eq_iff, hashed, same_iff, RefKind.tag_inj]

end JobRef

/-! ## Addresses of logs -/

theorem not_plain_slash : ¬ Percent.Plain '/' := by
  unfold Percent.Plain
  decide

theorem slash_not_mem_encode (s : String) : '/' ∉ (Percent.encode s).toList := fun h =>
  not_plain_slash (Percent.plain_of_mem_encode h)

/-- The fields of an address behind the part that all addresses share. -/
def logFields (s : Source) (canonicalId : String) : List (List Char) :=
  [s.id, s.path, canonicalId].map fun field => (Percent.encode field).toList

theorem toList_logUrl (base : String) (s : Source) (canonicalId : String) :
    (logUrl base s canonicalId).toList =
      base.toList ++ "/log/".toList ++ Fields.join '/' (logFields s canonicalId) := by
  simp [logUrl, logFields, Fields.join]

/-- The address of a log falls apart into what it was made of. -/
theorem logUrl_eq_iff {base : String} {s t : Source} {c d : String} :
    logUrl base s c = logUrl base t d ↔ s = t ∧ c = d := by
  refine ⟨fun h => ?_, fun ⟨hs, hc⟩ => hs ▸ hc ▸ rfl⟩
  have hsplit : ∀ (s : Source) (c : String),
      Text.Fields.split '/' (Fields.join '/' (logFields s c)) = logFields s c := by
    intro s c
    refine Fields.split_join (by simp [logFields]) fun f hf => ?_
    obtain ⟨field, -, rfl⟩ := List.mem_map.1 hf
    exact slash_not_mem_encode field
  have hl := congrArg String.toList h
  rw [toList_logUrl, toList_logUrl, List.append_cancel_left_eq] at hl
  have hfields : logFields s c = logFields t d := by rw [← hsplit, hl, hsplit]
  obtain ⟨hid, hpath, hc⟩ : s.id = t.id ∧ s.path = t.path ∧ c = d := by
    simpa [logFields, String.toList_inj, Percent.encode_inj] using hfields
  refine ⟨?_, hc⟩
  cases s
  cases t
  simp_all

namespace JobKey

theorem same_iff {a b : JobKey} : a.same b = true ↔
    a.source = b.source ∧ a.ref.same b.ref = true ∧ a.commit = b.commit := by
  simp [same, identity, JobRef.same]

/-- Two keys that name the same job have the same written form unless they are updates that are
aimed at different branches. -/
theorem same_and_text_ne_iff {a b : JobKey} : a.same b = true ∧ a.text ≠ b.text ↔
    ∃ source id target target' commit, a = ⟨source, .update id target, commit⟩ ∧
      b = ⟨source, .update id target', commit⟩ ∧ target ≠ target' := by
  rw [same_iff, JobRef.same_iff_eq_or]
  constructor
  · obtain ⟨source, ref, commit⟩ := a
    obtain ⟨source', ref', commit'⟩ := b
    rintro ⟨⟨rfl, rfl | ⟨id, target, target', rfl, rfl⟩, rfl⟩, hne⟩
    · exact absurd rfl hne
    · exact ⟨source, id, target, target', commit, rfl, rfl, fun e => hne (by rw [e])⟩
  · rintro ⟨source, id, target, target', commit, rfl, rfl, hne⟩
    refine ⟨⟨rfl, .inr ⟨id, target, target', rfl, rfl⟩, rfl⟩, fun h => hne ?_⟩
    cases text_inj h
    rfl

/-- The notions of what makes two jobs the same fit together. -/
theorem identities_agree (base : String) (layout : KeyLayout) (a b : JobKey) :
    (a.ref.same b.ref = true ↔ a.canonicalId = b.canonicalId) ∧
    (a.ref.same b.ref = true ↔ ∀ h : Hasher, a.ref.hash h = b.ref.hash h) ∧
    (logUrl base a.source a.canonicalId = logUrl base b.source b.canonicalId ↔
      a.source = b.source ∧ a.ref.same b.ref = true) ∧
    (a.text = b.text → a.same b = true ∧ (∀ h : Hasher, a.hash h = b.hash h) ∧
      layout.queue a = layout.queue b ∧ layout.status a = layout.status b) ∧
    (a.same b = true ∧ a.text ≠ b.text ↔ ∃ source id target target' commit,
      a = ⟨source, .update id target, commit⟩ ∧ b = ⟨source, .update id target', commit⟩ ∧
        target ≠ target') := by
  refine ⟨JobRef.canonicalId_eq_iff.symm, JobRef.same_iff_hash_eq, ?_, fun h => ?_,
    same_and_text_ne_iff⟩
  · rw [logUrl_eq_iff]
    exact and_congr_right fun _ => JobRef.canonicalId_eq_iff
  · obtain rfl := text_inj h
    exact ⟨by simp [same], fun h => rfl, rfl, rfl⟩

end JobKey

end BuildQueue
