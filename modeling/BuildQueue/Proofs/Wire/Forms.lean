import BuildQueue.Proofs.Job.Key
import BuildQueue.Proofs.Json.Forms
import BuildQueue.Wire.Config
import BuildQueue.Wire.Dependency

/-!
# What processes send each other

Every value that is sent as JSON text is read back as it was, and what is read as a commit id or a
job key has been through the reader of its texts, wherever in a message it stands (`wire_exact`).
Each type has a codec, and the codec of a record is made of those of its fields.
-/

namespace BuildQueue

open Json (Codec)

/-! ## Jobs -/

theorem Source.codec : Codec Source.toJson Source.ofJson? where
  printable s := Json.printable_record (by simp)
  read_form s := by simp [toJson, ofJson?]

theorem CommitId.codec : Codec CommitId.toJson CommitId.ofJson? where
  printable c := Json.printable_text _
  read_form c := by simp [toJson, ofJson?, Json.parsed?, parse_text, Except.toOption]

theorem JobRef.codec : Codec JobRef.toJson JobRef.ofJson? where
  printable r := by cases r <;> exact Json.printable_record (by simp)
  read_form r := by cases r <;> simp [toJson, ofJson?]

theorem JobKey.codec : Codec JobKey.toJson JobKey.ofJson? where
  printable k := Json.printable_text _
  read_form k := by simp [toJson, ofJson?, Json.parsed?, parse_text, Except.toOption]

theorem Update.codec : Codec Update.toJson Update.ofJson? where
  printable u := Json.printable_record (by simp [Source.codec.printable, CommitId.codec.printable])
  read_form u := by simp [toJson, ofJson?, Source.codec.read_form, CommitId.codec.read_form]

@[simp] theorem OutcomeKind.ofTag?_tag (k : OutcomeKind) : ofTag? k.tag = some k := by
  cases k <;> rfl

theorem JobOutcome.codec : Codec JobOutcome.toJson JobOutcome.ofJson? where
  printable o := Json.printable_record (by simp [JobKey.codec.printable])
  read_form o := by
    simp [toJson, ofJson?, Json.choiceWith?, JobKey.codec.read_form]

theorem GitRef.codec : Codec GitRef.toJson GitRef.ofJson? where
  printable r := by cases r <;> exact Json.printable_record (by simp)
  read_form r := by cases r <;> simp [toJson, ofJson?, Json.choiceWith?]

theorem Version.codec : Codec Version.toJson Version.ofJson? where
  printable v := Json.printable_record (by simp)
  read_form v := by simp [toJson, ofJson?]

/-! ## Dependency graphs -/

theorem DependencyNode.codec : Codec DependencyNode.toJson DependencyNode.ofJson? where
  printable n := Json.printable_record (by simp [Json.codec_word.printable_array])
  read_form n := by simp [toJson, ofJson?, Json.codec_word.list?_array]

/-- A problem is read back at any depth. -/
theorem DependencyProblem.codec (level : Nat) :
    Codec DependencyProblem.toJson (DependencyProblem.ofJson? level) where
  printable p := by cases p <;> exact Json.printable_record (by simp)
  read_form p := by cases p <;> simp [toJson, ofJson?]

theorem DependencyGraph.codec : Codec DependencyGraph.toJson DependencyGraph.ofJson? where
  printable g := Json.printable_record (by
    simp [DependencyNode.codec.printable_array, (DependencyProblem.codec 3).printable_array])
  read_form g := by
    simp [toJson, ofJson?, DependencyNode.codec.list?_array,
      (DependencyProblem.codec 3).list?_array]

/-! ## Configuration -/

theorem BranchPattern.codec : Codec BranchPattern.toJson BranchPattern.ofJson? where
  printable p := Json.printable_text _
  read_form p := by simp [toJson, ofJson?, parse?_source]

theorem Bump.codec : Codec Bump.toJson Bump.ofJson? where
  printable b := Json.printable_text _
  read_form b := by cases b <;> rfl

/-- A span has less than a second of nanoseconds, so none of them is carried. -/
theorem Span.ofParts?_eq (d : Span) : ofParts? d.seconds d.nanoseconds = some d := by
  obtain ⟨seconds, nanoseconds, hlt⟩ := d
  have hnanos : nanoseconds.toNat < 1000000000 := hlt
  have hcarry : seconds.toNat + nanoseconds.toNat / 1000000000 = seconds.toNat := by omega
  have hmod : nanoseconds % 1000000000 = nanoseconds := UInt32.toNat_inj.1 (by
    rw [UInt32.toNat_mod]
    exact Nat.mod_eq_of_lt hnanos)
  have hbound : seconds.toNat < UInt64.size := seconds.toNat_lt
  simp [ofParts?, hcarry, hmod, hbound]

@[simp] theorem Span.hasMembers_record (count : Nat) (members : List (String × Json)) :
    hasMembers count (.record members) = decide (members.length = count) := by
  rw [Json.record, hasMembers, List.length_map]

theorem Span.codec : Codec Span.toJson Span.ofJson? where
  printable d := Json.printable_record (by simp)
  read_form d := by
    have hnanos : d.nanoseconds.toNat < UInt32.size := d.nanoseconds.toNat_lt
    simp [toJson, ofJson?, hnanos, ofParts?_eq]

theorem Coordinator.codec : Codec Coordinator.toJson Coordinator.ofJson? where
  printable c := Json.printable_record (by
    simp [Json.codec_text.printable_option, Span.codec.printable])
  read_form c := by
    simp [toJson, ofJson?, Json.codec_text.optional?_option (fun _ => by rintro ⟨⟩),
      Span.codec.read_form]

theorem RepositoryPolicy.codec : Codec RepositoryPolicy.toJson RepositoryPolicy.ofJson? where
  printable p := Json.printable_record (by
    simp [BranchPattern.codec.printable_array, Bump.codec.printable_option])
  read_form p := by
    simp [toJson, ofJson?, BranchPattern.codec.list?_array,
      Bump.codec.optional?_option (fun _ => by rintro ⟨⟩)]

theorem SystemConfig.codec : Codec SystemConfig.toJson SystemConfig.ofJson? where
  printable c := Json.printable_record (by
    simp [Coordinator.codec.printable, RepositoryPolicy.codec.printable_array])
  read_form c := by
    simp [toJson, ofJson?, Coordinator.codec.read_form, RepositoryPolicy.codec.list?_array]

/-! ## Messages -/

/-- What the form of a value says in a text is read as the value. -/
def ReadBack {α : Type} (form : α → Json) (read : Json → Option α) : Prop :=
  ∀ a, (Json.parse? (form a).compact).bind read = some a

/-- The text is the full name of a Git object in lowercase. -/
def IsCommitName (s : String) : Prop :=
  (s.length = 40 ∨ s.length = 64) ∧ ∀ c ∈ s.toList, c ∈ "0123456789abcdef".toList

theorem CommitId.isCommitName_text (c : CommitId) : IsCommitName c.text := by
  have hlower : ∀ d : Fin 16, Text.Hex.lower d ∈ "0123456789abcdef".toList := by decide
  refine ⟨?_, fun ch hch => ?_⟩
  · rw [text, String.length_ofList, chars, List.length_map]
    exact c.length_eq
  · rw [text, String.toList_ofList, chars] at hch
    obtain ⟨d, -, rfl⟩ := List.mem_map.1 hch
    exact hlower d

/-- Every value is read back from its text, and the ids and keys in what is read are genuine. -/
structure WireExact : Prop where
  source : ReadBack Source.toJson Source.ofJson?
  commit : ReadBack CommitId.toJson CommitId.ofJson?
  ref : ReadBack JobRef.toJson JobRef.ofJson?
  key : ReadBack JobKey.toJson JobKey.ofJson?
  update : ReadBack Update.toJson Update.ofJson?
  outcome : ReadBack JobOutcome.toJson JobOutcome.ofJson?
  gitRef : ReadBack GitRef.toJson GitRef.ofJson?
  version : ReadBack Version.toJson Version.ofJson?
  problem : ReadBack DependencyProblem.toJson (DependencyProblem.ofJson? 1)
  graph : ReadBack DependencyGraph.toJson DependencyGraph.ofJson?
  pattern : ReadBack BranchPattern.toJson BranchPattern.ofJson?
  config : ReadBack SystemConfig.toJson SystemConfig.ofJson?
  readsCommit : ∀ text c, (Json.parse? text).bind CommitId.ofJson? = some c →
    IsCommitName c.text ∧ ∃ s, Json.parse? text = some (.text s) ∧ CommitId.parse s = .ok c
  readsUpdate : ∀ text u, (Json.parse? text).bind Update.ofJson? = some u →
    IsCommitName u.commit.text ∧ ∃ j source id target s, Json.parse? text = some j ∧
      j.fields? ["source", "update_id", "target_branch", "commit"] =
        some [some source, some id, some target, some (.text s)] ∧
      CommitId.parse s = .ok u.commit
  readsKey : ∀ text k, (Json.parse? text).bind JobKey.ofJson? = some k →
    IsCommitName k.commit.text ∧ ∃ s, Json.parse? text = some (.text s) ∧ JobKey.parse s = .ok k
  readsOutcome : ∀ text o, (Json.parse? text).bind JobOutcome.ofJson? = some o →
    IsCommitName o.key.commit.text ∧ ∃ j tag s, Json.parse? text = some j ∧
      j.choiceWith? "outcome" "key" = some (tag, .text s) ∧ JobKey.parse s = .ok o.key

/-- What a reader of texts gives comes from a text. -/
theorem Json.parsed?_eq_some {ε α : Type} {parse : String → Except ε α} {j : Json} {a : α}
    (h : j.parsed? parse = some a) : ∃ s, j = .text s ∧ parse s = .ok a := by
  obtain ⟨s, hs, hparse⟩ := Option.bind_eq_some_iff.1 h
  refine ⟨s, ?_, ?_⟩
  · cases j with
    | string text => exact congrArg Json.string hs
    | _ => cases hs
  · cases hp : parse s with
    | error e => rw [hp] at hparse; cases hparse
    | ok b =>
      rw [hp] at hparse
      rw [Option.some.inj hparse]

/-- The commit of an update that is read is what the field for it is read as. -/
theorem Update.commit_of_ofJson? {j : Json} {u : Update} (h : ofJson? j = some u) :
    ∃ source id target commit, j.fields? ["source", "update_id", "target_branch", "commit"] =
        some [some source, some id, some target, some commit] ∧
      CommitId.ofJson? commit = some u.commit := by
  obtain ⟨fields, hfields, h⟩ := Option.bind_eq_some_iff.1 h
  split at h
  · next source id target commit =>
    obtain ⟨_, -, h⟩ := Option.bind_eq_some_iff.1 h
    obtain ⟨_, -, h⟩ := Option.bind_eq_some_iff.1 h
    obtain ⟨_, -, h⟩ := Option.bind_eq_some_iff.1 h
    obtain ⟨c, hcommit, h⟩ := Option.bind_eq_some_iff.1 h
    obtain rfl := Option.some.inj h
    exact ⟨source, id, target, commit, hfields, hcommit⟩
  · cases h

/-- The key of an outcome that is read is what stands beside its tag. -/
theorem JobOutcome.key_of_ofJson? {j : Json} {o : JobOutcome} (h : ofJson? j = some o) :
    ∃ tag key, j.choiceWith? "outcome" "key" = some (tag, key) ∧
      JobKey.ofJson? key = some o.key := by
  obtain ⟨⟨tag, key⟩, hchoice, h⟩ := Option.bind_eq_some_iff.1 h
  obtain ⟨_, -, h⟩ := Option.bind_eq_some_iff.1 h
  obtain ⟨k, hkey, h⟩ := Option.bind_eq_some_iff.1 h
  obtain rfl := Option.some.inj h
  exact ⟨tag, key, hchoice, hkey⟩

theorem wire_exact : WireExact where
  source := Source.codec.parse?_compact
  commit := CommitId.codec.parse?_compact
  ref := JobRef.codec.parse?_compact
  key := JobKey.codec.parse?_compact
  update := Update.codec.parse?_compact
  outcome := JobOutcome.codec.parse?_compact
  gitRef := GitRef.codec.parse?_compact
  version := Version.codec.parse?_compact
  problem := (DependencyProblem.codec 1).parse?_compact
  graph := DependencyGraph.codec.parse?_compact
  pattern := BranchPattern.codec.parse?_compact
  config := SystemConfig.codec.parse?_compact
  readsCommit text c h := by
    obtain ⟨j, hj, hread⟩ := Option.bind_eq_some_iff.1 h
    obtain ⟨s, rfl, hs⟩ := Json.parsed?_eq_some hread
    exact ⟨c.isCommitName_text, s, hj, hs⟩
  readsUpdate text u h := by
    obtain ⟨j, hj, hread⟩ := Option.bind_eq_some_iff.1 h
    obtain ⟨source, id, target, commit, hfields, hcommit⟩ := Update.commit_of_ofJson? hread
    obtain ⟨s, rfl, hs⟩ := Json.parsed?_eq_some hcommit
    exact ⟨u.commit.isCommitName_text, j, source, id, target, s, hj, hfields, hs⟩
  readsKey text k h := by
    obtain ⟨j, hj, hread⟩ := Option.bind_eq_some_iff.1 h
    obtain ⟨s, rfl, hs⟩ := Json.parsed?_eq_some hread
    exact ⟨k.commit.isCommitName_text, s, hj, hs⟩
  readsOutcome text o h := by
    obtain ⟨j, hj, hread⟩ := Option.bind_eq_some_iff.1 h
    obtain ⟨tag, key, hchoice, hkey⟩ := JobOutcome.key_of_ofJson? hread
    obtain ⟨s, rfl, hs⟩ := Json.parsed?_eq_some hkey
    exact ⟨o.key.commit.isCommitName_text, j, tag, s, hj, hchoice, hs⟩

end BuildQueue
