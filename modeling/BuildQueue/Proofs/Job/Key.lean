import BuildQueue.Job.Key
import BuildQueue.Proofs.Text.Fields
import BuildQueue.Proofs.Text.Percent
import BuildQueue.Store.Keys

/-!
# Reading back a written key

`parse_text`: a job key is read back from its written form, so the written form names the key
(`text_inj`). A layout therefore assigns one queue to each written form (`KeyLayout.home`).
-/

namespace BuildQueue

namespace CommitId

theorem parse_text (c : CommitId) : parse c.text = .ok c := by
  rw [parse, text, String.toList_ofList, ofChars?_chars]

theorem colon_not_mem_text (c : CommitId) : ':' ∉ c.text.toList := by
  have hd : ∀ d : Fin 16, Text.Hex.lower d ≠ ':' := by decide
  rw [text, String.toList_ofList, chars]
  intro h
  obtain ⟨d, -, e⟩ := List.mem_map.1 h
  exact hd d e

theorem text_inj {a b : CommitId} : a.text = b.text ↔ a = b := by
  refine ⟨fun h => ?_, congrArg text⟩
  have ha := a.parse_text
  rw [h, b.parse_text] at ha
  exact (Except.ok.inj ha).symm

theorem dash_not_mem_text (c : CommitId) : '-' ∉ c.text.toList := by
  have hd : ∀ d : Fin 16, Text.Hex.lower d ≠ '-' := by decide
  rw [text, String.toList_ofList, chars]
  intro h
  obtain ⟨d, -, e⟩ := List.mem_map.1 h
  exact hd d e

end CommitId

namespace JobKey

open Text (Percent.encode Percent.decode_encode Percent.colon_not_mem_encode)

theorem separator_not_mem_fields (k : JobKey) : ∀ f ∈ k.fields, separator ∉ f.toList := by
  have he := Percent.colon_not_mem_encode
  have hc := k.commit.colon_not_mem_text
  have ht : ∀ kind : RefKind, ':' ∉ kind.tag.toList := by
    intro kind
    cases kind <;> decide
  intro f hf
  cases hr : k.ref with
  | update id target =>
    simp only [fields, hr, List.mem_cons, List.not_mem_nil, or_false] at hf
    rcases hf with rfl | rfl | rfl | rfl | rfl | rfl
    · exact he _
    · exact he _
    · exact ht _
    · exact he _
    · exact he _
    · exact hc
  | branch name =>
    simp only [fields, hr, List.mem_cons, List.not_mem_nil, or_false] at hf
    rcases hf with rfl | rfl | rfl | rfl | rfl
    · exact he _
    · exact he _
    · exact ht _
    · exact he _
    · exact hc

/-- The written form falls apart into the fields it was made of. -/
theorem split_text (k : JobKey) :
    (Text.Fields.split separator k.text.toList).map String.ofList = k.fields := by
  have hne : k.fields.map String.toList ≠ [] := by simp [fields]
  have hsep : ∀ f ∈ k.fields.map String.toList, separator ∉ f := by
    intro f hf
    obtain ⟨g, hg, rfl⟩ := List.mem_map.1 hf
    exact k.separator_not_mem_fields g hg
  rw [text, String.toList_ofList, Text.Fields.split_join hne hsep, List.map_map]
  simp

theorem decodeField_encode (s : String) : decodeField (Percent.encode s) = .ok s := by
  rw [decodeField, Percent.decode_encode]
  rfl

/-- A key is read back from its written form. -/
theorem parse_text (k : JobKey) : parse k.text = .ok k := by
  have hs := k.split_text
  obtain ⟨source, ref, commit⟩ := k
  cases ref with
  | update id target =>
    simp only [fields, JobRef.kind, RefKind.tag] at hs
    simp only [parse, hs, List.length_cons, List.length_nil, decodeField_encode, parseRef,
      CommitId.parse_text]
    rfl
  | branch name =>
    simp only [fields, JobRef.kind, RefKind.tag] at hs
    simp only [parse, hs, List.length_cons, List.length_nil, decodeField_encode, parseRef,
      CommitId.parse_text]
    rfl

theorem text_inj {a b : JobKey} (h : a.text = b.text) : a = b := by
  have ha := a.parse_text
  rw [h, b.parse_text] at ha
  exact (Except.ok.inj ha).symm

/-- A name that may be missing, and is that of a key if there is one. -/
theorem exists_map_text {o : Option String}
    (h : ∀ job, o = some job → ∃ key : JobKey, key.text = job) :
    ∃ key : Option JobKey, o = key.map text := by
  cases o with
  | none => exact ⟨none, rfl⟩
  | some job =>
    obtain ⟨key, rfl⟩ := h job rfl
    exact ⟨some key, rfl⟩

end JobKey

namespace KeyLayout

variable (layout : KeyLayout)

/-- The queue of the job that a text names. -/
def home (job : String) : String :=
  match JobKey.parse job with
  | .ok key => layout.queue key
  | .error _ => ""

@[simp] theorem home_text (key : JobKey) : layout.home key.text = layout.queue key := by
  rw [home, key.parse_text]

theorem status_inj {a b : JobKey} (h : layout.status a = layout.status b) : a = b := by
  refine JobKey.text_inj ?_
  simpa [status, PoolKeys.status] using h

/-- Jobs of one repository and one competition group share a queue. -/
theorem queue_congr {a b : JobKey} (hs : a.source = b.source) (hq : a.queueId = b.queueId) :
    layout.queue a = layout.queue b := by
  rw [queue, queue, hs, hq]

end KeyLayout

end BuildQueue
