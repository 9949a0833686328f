import BuildQueue.Proofs.Job.Key

/-!
# Names of the shared structures are apart

A name in the store is a line of fields without the separator, with the deployment's root in front
(`toList_nameOf`), so it falls apart again into those fields (`fields_of_nameOf_eq`), and the fields
say what the name stands for (`role_of_fields`). Of the names that are made from a job, the one
of its status is its own, and the one of its queue is shared by just the jobs it competes with
(`names_apart`).
-/

namespace BuildQueue

open Text (Percent.encode Percent.encode_inj Percent.colon_not_mem_encode Fields.join
  Fields.split_join)

/-- What a structure of the store is for. -/
inductive Role where
  | ready
  | active
  | owners
  | labels
  | status
  | queue
  deriving DecidableEq, Repr

/-- What the fields behind the root are the name of: the pools and tables have a word each, a queue
has four fields, and a status has more. -/
def Role.ofFields : List String → Role
  | ["ready"] => .ready
  | ["active"] => .active
  | ["owners"] => .owners
  | ["labels"] => .labels
  | [_, _, _, _] => .queue
  | _ => .status

/-- What has a name in the store. -/
inductive Named where
  | ready
  | active
  | owners
  | labels
  /-- The status of a job. -/
  | status (job : JobKey)
  /-- The queue in which a job stands. -/
  | queue (job : JobKey)

namespace Named

def role : Named → Role
  | ready => .ready
  | active => .active
  | owners => .owners
  | labels => .labels
  | status _ => .status
  | queue _ => .queue

/-- The fields of a name behind the root. -/
def fields : Named → List String
  | ready => ["ready"]
  | active => ["active"]
  | owners => ["owners"]
  | labels => ["labels"]
  | status job => "status" :: job.fields
  | queue job =>
    [Percent.encode job.source.id, Percent.encode job.source.path, "local", job.queueId]

end Named

/-- The name that a layout gives. -/
def KeyLayout.nameOf (layout : KeyLayout) : Named → String
  | .ready => layout.pools.ready
  | .active => layout.pools.active
  | .owners => layout.pools.owners
  | .labels => layout.pools.labels
  | .status job => layout.status job
  | .queue job => layout.queue job

/-- Jobs of one repository that never run together: updates that aim at one branch, and jobs for one
push of a branch. -/
inductive Competes : JobKey → JobKey → Prop
  | update (source : Source) (target id id' : String) (commit commit' : CommitId) :
      Competes ⟨source, .update id target, commit⟩ ⟨source, .update id' target, commit'⟩
  | branch (source : Source) (name : String) (commit : CommitId) :
      Competes ⟨source, .branch name, commit⟩ ⟨source, .branch name, commit⟩

/-! ## Competition groups -/

namespace JobKey

/-- Two jobs of one repository have the same queue id exactly if they compete. The commit holds no
hyphen, so the last one of the id stands between branch and commit. -/
theorem queueId_eq_iff {a b : JobKey} (hs : a.source = b.source) :
    a.queueId = b.queueId ↔ Competes a b := by
  obtain ⟨source, ref, commit⟩ := a
  obtain ⟨_, ref', commit'⟩ := b
  obtain rfl : source = _ := hs
  have hd := commit.dash_not_mem_text
  have hd' := commit'.dash_not_mem_text
  cases ref with
  | update id target =>
    cases ref' with
    | update id' target' =>
      simp only [queueId, JobRef.queueId, String.append_right_inj, Percent.encode_inj]
      exact ⟨fun h => h ▸ .update .., fun h => by cases h; rfl⟩
    | branch name' =>
      refine ⟨fun h => ?_, nofun⟩
      have hl := congrArg String.toList h
      simp [queueId, JobRef.queueId] at hl
  | branch name =>
    cases ref' with
    | update id' target' =>
      refine ⟨fun h => ?_, nofun⟩
      have hl := congrArg String.toList h
      simp [queueId, JobRef.queueId] at hl
    | branch name' =>
      have hq : (Percent.encode name).toList ++ '-' :: commit.text.toList =
          (Percent.encode name').toList ++ '-' :: commit'.text.toList ↔
          name = name' ∧ commit = commit' := by
        rw [Text.Fields.append_cons_inj hd hd', String.toList_inj, String.toList_inj,
          Percent.encode_inj, CommitId.text_inj]
      refine ⟨fun h => ?_, fun h => by cases h; rfl⟩
      have hl := congrArg String.toList h
      simp only [queueId, JobRef.queueId, String.toList_append, List.append_assoc,
        List.append_cancel_left_eq] at hl
      obtain ⟨rfl, rfl⟩ := hq.1 (by simpa using hl)
      exact .branch ..

theorem separator_not_mem_queueId (k : JobKey) : separator ∉ k.queueId.toList := by
  have he := Percent.colon_not_mem_encode
  have hc := k.commit.colon_not_mem_text
  cases hr : k.ref with
  | update id target => simp [queueId, hr, JobRef.queueId, separator, he]
  | branch name => simp [queueId, hr, JobRef.queueId, separator, he, hc]

end JobKey

/-! ## Names as lines of fields -/

namespace Named

theorem separator_not_mem_fields (n : Named) : ∀ f ∈ n.fields, JobKey.separator ∉ f.toList := by
  have he := Percent.colon_not_mem_encode
  cases n with
  | status job =>
    intro f hf
    obtain rfl | hf := List.mem_cons.1 hf
    · decide
    · exact job.separator_not_mem_fields f hf
  | queue job =>
    have hq := job.separator_not_mem_queueId
    simp only [JobKey.separator] at hq ⊢
    simp [fields, he, hq]
  | _ => simp [fields, JobKey.separator]

/-- The fields say what a name stands for. -/
theorem role_of_fields (n : Named) : Role.ofFields n.fields = n.role := by
  cases n with
  | status job => cases hr : job.ref <;> simp [fields, JobKey.fields, hr, Role.ofFields, role]
  | queue job => simp [fields, Role.ofFields, role]
  | _ => rfl

end Named

namespace KeyLayout

variable {l m : KeyLayout}

theorem toList_nameOf (l : KeyLayout) (n : Named) : (l.nameOf n).toList =
    Fields.join JobKey.separator ((l.root :: n.fields).map String.toList) := by
  cases n with
  | status job =>
    obtain ⟨f, rest, hf⟩ : ∃ f rest, job.fields = f :: rest := ⟨_, _, rfl⟩
    simp [nameOf, status, pools, PoolKeys.status, Named.fields, JobKey.text, hf, Fields.join,
      JobKey.separator]
  | queue job => simp [nameOf, queue, Named.fields, Fields.join, JobKey.separator]
  | _ => simp [nameOf, pools, Named.fields, Fields.join, JobKey.separator]

/-- A name is the name of one deployment, and determines its fields. -/
theorem fields_of_nameOf_eq (hl : JobKey.separator ∉ l.root.toList)
    (hm : JobKey.separator ∉ m.root.toList) {n o : Named} (h : l.nameOf n = m.nameOf o) :
    l.root = m.root ∧ n.fields = o.fields := by
  have hsep (k : KeyLayout) (p : Named) (hk : JobKey.separator ∉ k.root.toList) :
      ∀ f ∈ (k.root :: p.fields).map String.toList, JobKey.separator ∉ f := by
    intro f hf
    obtain ⟨g, hg, rfl⟩ := List.mem_map.1 hf
    obtain rfl | hg := List.mem_cons.1 hg
    · exact hk
    · exact p.separator_not_mem_fields g hg
  have hjoin := congrArg String.toList h
  rw [toList_nameOf, toList_nameOf] at hjoin
  have hsplit := congrArg (Text.Fields.split JobKey.separator) hjoin
  rw [Fields.split_join (by simp) (hsep l n hl), Fields.split_join (by simp) (hsep m o hm)]
    at hsplit
  have hlist := List.map_inj_right (fun _ _ => String.toList_inj.1) |>.1 hsplit
  exact List.cons.inj hlist

/-- Names of two structures are equal only within one deployment and for one purpose. Of two jobs,
the names of the statuses are equal exactly if the jobs are written alike, and the names of the
queues exactly if the jobs compete. -/
theorem names_apart (hl : ':' ∉ l.root.toList) (hm : ':' ∉ m.root.toList) :
    (∀ n o : Named, l.nameOf n = m.nameOf o → l.root = m.root ∧ n.role = o.role) ∧
    (∀ a b : JobKey, l.status a = m.status b ↔ l.root = m.root ∧ a.text = b.text) ∧
    ∀ a b : JobKey, l.queue a = m.queue b ↔ l.root = m.root ∧ Competes a b := by
  refine ⟨fun n o h => ?_, fun a b => ⟨fun h => ?_, ?_⟩, fun a b => ⟨fun h => ?_, ?_⟩⟩
  · obtain ⟨hroot, hfields⟩ := fields_of_nameOf_eq hl hm h
    exact ⟨hroot, by rw [← n.role_of_fields, ← o.role_of_fields, hfields]⟩
  · obtain ⟨hroot, hfields⟩ :=
      fields_of_nameOf_eq hl hm (show l.nameOf (.status a) = m.nameOf (.status b) from h)
    have hf : a.fields = b.fields := (List.cons.inj hfields).2
    exact ⟨hroot, by rw [JobKey.text, JobKey.text, hf]⟩
  · rintro ⟨hroot, ht⟩
    rw [status, status, pools, pools, hroot, ht]
  · obtain ⟨hroot, hfields⟩ :=
      fields_of_nameOf_eq hl hm (show l.nameOf (.queue a) = m.nameOf (.queue b) from h)
    simp only [Named.fields, List.cons.injEq, Percent.encode_inj, and_true,
      true_and] at hfields
    obtain ⟨hid, hpath, hq⟩ := hfields
    have hs : a.source = b.source := (Source.mk.injEq ..).mpr ⟨hid, hpath⟩
    exact ⟨hroot, (JobKey.queueId_eq_iff hs).1 hq⟩
  · rintro ⟨hroot, hc⟩
    have hs : a.source = b.source := by cases hc <;> rfl
    have hq := (JobKey.queueId_eq_iff hs).2 hc
    rw [queue, queue, hroot, hs, hq]

/-- In a repository whose id and path are words of the layout, a status is not taken for a queue,
and the updates that aim at one branch share theirs. -/
theorem names_apart_lookalike :
    let layout : KeyLayout := ⟨"queue"⟩
    let commit : CommitId := ⟨List.replicate 40 0, .inl rfl⟩
    let first : JobKey := ⟨⟨"status", "local"⟩, .update "1" "main", commit⟩
    let second : JobKey := ⟨⟨"status", "local"⟩, .update "2" "main", commit⟩
    layout.nameOf (.status first) ≠ layout.nameOf (.queue second) ∧
      layout.queue first = layout.queue second ∧ layout.status first ≠ layout.status second := by
  intro layout commit first second
  have hroot : ':' ∉ layout.root.toList := by decide
  obtain ⟨hroles, hstatus, hqueue⟩ := names_apart hroot hroot
  refine ⟨fun h => ?_, (hqueue first second).2 ⟨rfl, .update ..⟩, fun h => ?_⟩
  · exact absurd (hroles _ _ h).2 (by decide)
  · exact absurd ((hstatus first second).1 h).2 (by decide)

end KeyLayout

end BuildQueue
