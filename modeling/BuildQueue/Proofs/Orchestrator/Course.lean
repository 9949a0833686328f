import BuildQueue.Orchestrator.Basic
import BuildQueue.Proofs.Prog
import BuildQueue.Text.After

/-!
# The course of a success

What a handler does to the systems around is its deeds: the calls that it makes, with what it was
answered, and the entries of the build log.

When a job has been moved to SUCCESS, its artifacts are published, its commit is marked, its update
is merged and a release is cut, as far as its repository asks for that. These calls stand in a row
(`pipeline`), in which later ones depend on what earlier ones have answered (`Findings`). The
handler goes along the row to its end, or to the first call that fails and that it reports
(`Course`); it looks nothing up twice and goes on with nothing but what it was answered. That is so
of every path through the handler (`publish_course`), whoever answers it.
-/

namespace BuildQueue.Orchestrator

/-- What a handler does to the systems around. -/
inductive Deed where
  | call (c : Call) (answer : Except DomainError c.Answer)
  /-- A call on the side, of which no answer is awaited. -/
  | aside (c : Call)
  | log (entry : LogEntry)

/-- An entry about a job. -/
def Deed.note (key : JobKey) (level : LogLevel) (message : String) : Deed :=
  .log ⟨level, message, key.source, key.canonicalId⟩

/-- The call that is made, be it on the side. -/
def Deed.call? : Deed → Option Call
  | .call c _ | .aside c => some c
  | .log _ => none

/-- The entry that is made. -/
def Deed.noted? : Deed → Option LogEntry
  | .log entry => some entry
  | .call .. | .aside _ => none

section Note

variable (key : JobKey) (level : LogLevel) (message : String)

@[simp] theorem Deed.call?_note : (Deed.note key level message).call? = none := rfl

@[simp] theorem Deed.note_ne_call (c : Call) (answer : Except DomainError c.Answer) :
    Deed.note key level message ≠ .call c answer := nofun

@[simp] theorem Deed.call_ne_note (c : Call) (answer : Except DomainError c.Answer) :
    Deed.call c answer ≠ .note key level message := nofun

end Note

/-- The deed that an exchange is. -/
def deed? : Exchange interface → Option Deed
  | ⟨.inr (.call c), answer⟩ => some (.call c answer)
  | ⟨.inr (.background c), _⟩ => some (.aside c)
  | ⟨.inr (.log entry), _⟩ => some (.log entry)
  | _ => none

/-- What has been done along a path. -/
def deedsOf (trace : List (Exchange interface)) : List Deed := trace.filterMap deed?

/-- What the calls of a pipeline find out. -/
structure Findings where
  /-- The branch to which the update was merged. -/
  branch : String
  /-- The version that the release has. -/
  version : Version
  /-- The tip of the branch from which the release is cut. -/
  head : CommitId

/-- The answer of the call is what is found out by it. -/
def Findings.Agrees (f : Findings) : (c : Call) → c.Answer → Prop
  | .merge .., branch => branch = f.branch
  | .nextVersion .., version => version = f.version
  | .branchHead .., head => head = f.head
  | _, _ => True

/-- The entry tells of a release. -/
def announces (entry : LogEntry) : Bool := (Text.after? "Released version" entry.message).isSome

/-! ## The row of calls -/

section Calls

variable (o : Orchestrator) (key : JobKey) (f : Findings)

/-- The merge of an update. -/
def mergeCalls : List Call :=
  match o.config.repository key.source, key.ref with
  | some policy, .update id _ => if policy.merge then [.merge key.source id] else []
  | _, _ => []

/-- The branch on which the change of a job lands. -/
def landing (policy : RepositoryPolicy) : Option String :=
  match key.ref with
  | .update .. => if policy.merge then some f.branch else none
  | .branch name => some name

/-- The branch from which a release is due, and what it raises. -/
def releaseDue : Option (String × Bump) :=
  (o.config.repository key.source).bind fun policy =>
    (landing key f policy).bind fun branch => (policy.releaseFor branch).map (branch, ·)

/-- The opening of a branch for later patches. -/
def maintenanceCalls (source : Source) (bump : Bump) : List Call :=
  if (o.config.repository source).any (·.maintenanceBranches) && bump ≠ .patch then
    [.createBranch source f.head f.version.maintenanceBranch]
  else []

/-- The calls that cut a release. -/
def releaseCalls (source : Source) : Option (String × Bump) → List Call
  | none => []
  | some (branch, bump) =>
    .nextVersion source branch bump :: .branchHead source branch ::
      .createTag source f.head f.version.tag :: o.maintenanceCalls f source bump

/-- The entry that tells of a release. -/
def releaseEntry (source : Source) (canonicalId : String) :
    Option (String × Bump) → Option LogEntry
  | none => none
  | some (branch, _) =>
    some ⟨.info, "Released version `" ++ f.version.text ++ "` from `" ++ branch ++ "`.", source,
      canonicalId⟩

/-- The calls that follow a success, in their order. -/
def pipeline : List Call :=
  [.publish key, .setValidBuild key.source key.commit
    (logUrl o.logBase key.source key.canonicalId)] ++ o.mergeCalls key ++
    o.releaseCalls f key.source (o.releaseDue key f)

end Calls

/-! ## Going along it -/

/-- A call that has succeeded with what is found out by it, or an entry that is no ERROR. -/
def Findings.Passes (f : Findings) : Deed → Prop
  | .call c (.ok answer) => f.Agrees c answer
  | .log entry => entry.level ≠ .error
  | _ => False

/-- The entries that tell of a release. -/
def announcements (deeds : List Deed) : List LogEntry :=
  (deeds.filterMap Deed.noted?).filter announces

/-- The deeds go along the calls, with one ERROR entry after the first call that fails and nothing
behind it. A release is told of when all calls have succeeded. -/
inductive Course (f : Findings) (calls : List Call) (said : Option LogEntry)
    (deeds : List Deed) : Prop where
  | completed (passes : ∀ d ∈ deeds, f.Passes d) (made : deeds.filterMap Deed.call? = calls)
    (told : announcements deeds = said.toList)
  | stopped {before : List Deed} {c : Call} {e : DomainError} {entry : LogEntry}
    (split : deeds = before ++ [.call c (.error e), .log entry])
    (passes : ∀ d ∈ before, f.Passes d) (level : entry.level = .error)
    (made : before.filterMap Deed.call? ++ [c] <+: calls) (told : announcements deeds = [])

namespace Course

variable {f : Findings} {calls : List Call} {said : Option LogEntry} {deeds : List Deed} {c : Call}
  {entry : LogEntry}

theorem nil : Course f [] none [] := .completed (List.forall_mem_nil _) rfl rfl

/-- A release is told of. -/
theorem announced (hl : entry.level ≠ .error) (ha : announces entry = true) :
    Course f [] (some entry) [.log entry] :=
  .completed (List.forall_mem_singleton.2 hl) rfl (List.filter_cons_of_pos ha)

/-- A call has succeeded. -/
theorem call {answer : c.Answer} (h : Course f calls said deeds) (ha : f.Agrees c answer) :
    Course f (c :: calls) said (.call c (.ok answer) :: deeds) := by
  have hd : f.Passes (.call c (.ok answer)) := ha
  cases h with
  | completed passes made told =>
    exact .completed (List.forall_mem_cons.2 ⟨hd, passes⟩) (congrArg (c :: ·) made) told
  | stopped split passes level made told =>
    exact .stopped (congrArg (_ :: ·) split) (List.forall_mem_cons.2 ⟨hd, passes⟩) level
      (List.cons_prefix_cons.2 ⟨rfl, made⟩) told

theorem announcements_cons (ha : announces entry = false) :
    announcements (.log entry :: deeds) = announcements deeds :=
  List.filter_cons_of_neg (by rw [ha]; exact Bool.false_ne_true)

/-- An entry that is no ERROR and tells of no release. -/
theorem note (h : Course f calls said deeds) (hl : entry.level ≠ .error)
    (ha : announces entry = false) : Course f calls said (.log entry :: deeds) := by
  have hd : f.Passes (.log entry) := hl
  have hsame : announcements (.log entry :: deeds) = announcements deeds :=
    announcements_cons ha
  cases h with
  | completed passes made told =>
    exact .completed (List.forall_mem_cons.2 ⟨hd, passes⟩) made (hsame.trans told)
  | stopped split passes level made told =>
    exact .stopped (congrArg (_ :: ·) split) (List.forall_mem_cons.2 ⟨hd, passes⟩) level made
      (hsame.trans told)

/-- A call has failed, and that is reported. -/
theorem failed (c : Call) (e : DomainError) (hl : entry.level = .error)
    (ha : announces entry = false) :
    Course f (c :: calls) said [.call c (.error e), .log entry] := by
  have hsplit : [Deed.call c (.error e), .log entry] = [] ++ [.call c (.error e), .log entry] := rfl
  have htold : announcements [.log entry] = [] := announcements_cons ha
  exact .stopped hsplit (List.forall_mem_nil _) hl ⟨calls, rfl⟩ htold

end Course

/-- The same for calls of which a failure is still to be reported. -/
def Unreported {α : Type} (f : Findings) (calls : List Call) (said : Option LogEntry)
    (answer : Except DomainError α) (deeds : List Deed) : Prop :=
  match answer with
  | .ok _ => Course f calls said deeds
  | .error _ => ∀ entry : LogEntry, entry.level = .error → announces entry = false →
      Course f calls said (deeds ++ [.log entry])

theorem Unreported.call {α : Type} {f : Findings} {calls : List Call} {said : Option LogEntry}
    {answer : Except DomainError α} {deeds : List Deed} {c : Call} {x : c.Answer}
    (h : Unreported f calls said answer deeds) (hx : f.Agrees c x) :
    Unreported f (c :: calls) said answer (.call c (.ok x) :: deeds) := by
  cases answer with
  | ok _ => exact Course.call h hx
  | error e => exact fun entry hl ha => (h entry hl ha).call hx

/-- The deeds begin with the entry of the success, and go along the pipeline behind it. -/
def Pursued (o : Orchestrator) (key : JobKey) (deeds : List Deed) : Prop :=
  ∃ f behind, deeds = .note key .info "Build succeeded." :: behind ∧
    Course f (o.pipeline key f)
      (releaseEntry f key.source key.canonicalId (o.releaseDue key f)) behind

/-! ## Paths that come to an end -/

instance (r : interface.Request) : Nonempty (interface.Reply r) := by
  rcases r with (c | t) | (_ | _ | c | entry | c)
  · exact ⟨.error .store⟩
  · exact ⟨()⟩
  · exact ⟨()⟩
  · exact ⟨()⟩
  · exact ⟨.error (.internal "")⟩
  · exact ⟨()⟩
  · exact ⟨()⟩

section Paths

variable {trace : List (Exchange interface)} {o : Orchestrator} {source : Source} {key : JobKey}
  {branch canonicalId : String} {bump : Bump}

@[simp] theorem deedsOf_append (first second : List (Exchange interface)) :
    deedsOf (first ++ second) = deedsOf first ++ deedsOf second :=
  List.filterMap_append

/-- A call of the ledger is no deed. -/
theorem deedsOf_map_inl (trace : List (Exchange Ledger.interface)) :
    deedsOf (trace.map (Exchange.inl (J := ⟨Request, Reply⟩))) = [] := by
  induction trace with
  | nil => rfl
  | cons x trace ih => exact ih

theorem deedsOf_call {c : Call} {answer : Except DomainError c.Answer}
    (h : (call c).Path trace (.done answer)) : deedsOf trace = [.call c answer] := by
  obtain ⟨reply, rest, rfl, hrest⟩ := h.ask_done_inv
  obtain ⟨rfl, rfl⟩ := hrest.pure_inv
  rfl

theorem deedsOf_inTurn {turn : String} {c : Call} {answer : Except DomainError c.Answer}
    (h : (inTurn turn c).Path trace (.done answer)) : deedsOf trace = [.call c answer] := by
  obtain ⟨_, _, rfl, hturn⟩ := h.ask_done_inv
  obtain ⟨reply, _, rfl, hcalled⟩ := hturn.ask_done_inv
  obtain ⟨_, _, rfl, hreleased⟩ := hcalled.ask_done_inv
  obtain ⟨rfl, rfl⟩ := hreleased.pure_inv
  rfl

theorem deedsOf_logAbout {level : LogLevel} {message : String}
    (h : (logAbout source canonicalId level message).Path trace (.done ())) :
    deedsOf trace = [.log ⟨level, message, source, canonicalId⟩] := by
  obtain ⟨_, rest, rfl, hrest⟩ := h.ask_done_inv
  obtain ⟨rfl, -⟩ := hrest.pure_inv
  rfl

theorem deedsOf_log {level : LogLevel} {message : String}
    (h : (log key level message).Path trace (.done ())) :
    deedsOf trace = [.note key level message] :=
  deedsOf_logAbout h

/-- The branch for later patches is opened or need not be, unless that fails. -/
theorem openMaintenance_course {f : Findings} {reply : Except DomainError Unit}
    (h : (o.openMaintenance source f.head f.version bump).Path trace (.done reply))
    (said : Option LogEntry) :
    match reply with
    | .ok _ => ∀ rest, Course f [] said rest →
        Course f (o.maintenanceCalls f source bump) said (deedsOf trace ++ rest)
    | .error _ => ∀ entry : LogEntry, entry.level = .error → announces entry = false →
        Course f (o.maintenanceCalls f source bump) said (deedsOf trace ++ [.log entry]) := by
  unfold openMaintenance at h
  unfold maintenanceCalls
  split at h
  · next hopen =>
    rw [if_pos hopen, deedsOf_inTurn h]
    cases reply with
    | ok _ => exact fun rest hrest => hrest.call trivial
    | error e => exact fun entry hl ha => .failed _ e hl ha
  · next hopen =>
    obtain ⟨rfl, rfl⟩ := h.pure_inv
    rw [if_neg hopen]
    exact fun rest hrest => hrest

/-- A release is cut, or a call has failed. -/
theorem releaseAs_course {answer : Except DomainError Version}
    (h : (o.releaseAs source branch bump canonicalId).Path trace (.done answer))
    (known : Findings) : ∃ f : Findings, f.branch = known.branch ∧
      Unreported f (o.releaseCalls f source (some (branch, bump)))
        (releaseEntry f source canonicalId (some (branch, bump))) answer (deedsOf trace) := by
  obtain ⟨trace₁, rest₁, reply, rfl, hcall, h⟩ := h.bind_done_inv
  rw [deedsOf_append, deedsOf_inTurn hcall]
  cases reply with
  | error e =>
    obtain ⟨rfl, rfl⟩ := h.pure_inv
    exact ⟨known, rfl, fun entry hl ha => .failed _ e hl ha⟩
  | ok version =>
    obtain ⟨trace₂, rest₂, reply, rfl, hcall, h⟩ := h.bind_done_inv
    rw [deedsOf_append, deedsOf_inTurn hcall]
    cases reply with
    | error e =>
      obtain ⟨rfl, rfl⟩ := h.pure_inv
      exact ⟨{ known with version }, rfl, .call (fun entry hl ha => .failed _ e hl ha) rfl⟩
    | ok head =>
      -- Nothing is found out behind here: what is left has to agree with these findings.
      refine ⟨⟨known.branch, version, head⟩, rfl, .call (.call ?_ rfl) rfl⟩
      obtain ⟨trace₃, rest₃, reply, rfl, hcall, h⟩ := h.bind_done_inv
      rw [deedsOf_append, deedsOf_inTurn hcall]
      cases reply with
      | error e =>
        obtain ⟨rfl, rfl⟩ := h.pure_inv
        exact fun entry hl ha => .failed _ e hl ha
      | ok _ =>
        refine .call ?_ trivial
        obtain ⟨trace₄, rest₄, reply, rfl, hopen, h⟩ := h.bind_done_inv
        let f : Findings := ⟨known.branch, version, head⟩
        have hopened := openMaintenance_course (f := f) hopen
          (releaseEntry f source canonicalId (some (branch, bump)))
        rw [deedsOf_append]
        cases reply with
        | error e =>
          obtain ⟨rfl, rfl⟩ := h.pure_inv
          exact (List.append_nil (deedsOf trace₄)).symm ▸ hopened
        | ok _ =>
          obtain ⟨trace₅, rest₅, _, rfl, hlog, h⟩ := h.bind_done_inv
          obtain ⟨rfl, rfl⟩ := h.pure_inv
          refine hopened _ ?_
          rw [List.append_nil, deedsOf_logAbout hlog]
          exact .announced (by simp) (by simp [announces, Text.after?])

/-- A change has landed on a branch: a release is cut if one is due. -/
theorem onLanded_course {policy : RepositoryPolicy}
    (h : (o.onLanded key policy branch).Path trace (.done ())) (known : Findings) :
    let due := (policy.releaseFor branch).map (branch, ·)
    ∃ f : Findings, f.branch = known.branch ∧ Course f (o.releaseCalls f key.source due)
      (releaseEntry f key.source key.canonicalId due) (deedsOf trace) := by
  unfold onLanded at h
  dsimp only
  split at h
  · next hnone =>
    obtain ⟨rfl, -⟩ := h.pure_inv
    rw [hnone]
    exact ⟨known, rfl, .nil⟩
  · next bump hbump =>
    obtain ⟨trace₁, rest, reply, rfl, hrelease, h⟩ := h.bind_done_inv
    obtain ⟨f, hbranch, hcourse⟩ := releaseAs_course hrelease known
    rw [hbump, deedsOf_append]
    refine ⟨f, hbranch, ?_⟩
    cases reply with
    | ok _ =>
      obtain ⟨rfl, -⟩ := h.pure_inv
      exact (List.append_nil (deedsOf trace₁)).symm ▸ hcourse
    | error e =>
      rw [deedsOf_log h]
      exact hcourse _ rfl (by simp [announces, Text.after?])

theorem mergeUpdate_course {policy : RepositoryPolicy} {id target : String}
    (h : (o.mergeUpdate key policy id target).Path trace (.done ())) (known : Findings) :
    ∃ f : Findings,
      let due := (policy.releaseFor f.branch).map (f.branch, ·)
      Course f (.merge key.source id :: o.releaseCalls f key.source due)
        (releaseEntry f key.source key.canonicalId due) (deedsOf trace) := by
  obtain ⟨trace₁, rest, reply, rfl, hcall, h⟩ := h.bind_done_inv
  rw [deedsOf_append, deedsOf_inTurn hcall]
  cases reply with
  | error e =>
    rw [deedsOf_log h]
    exact ⟨known, .failed _ e rfl (by simp [announces, Text.after?])⟩
  | ok merged =>
    obtain ⟨trace₂, rest₂, _, rfl, hlog, h⟩ := h.bind_done_inv
    obtain ⟨f, rfl, hcourse⟩ := onLanded_course h { known with branch := merged }
    rw [deedsOf_append, deedsOf_log hlog]
    refine ⟨f, .call (.note hcourse ?_ ?_) rfl⟩
    · simp
    · simp [announces, Text.after?]

/-- The update is merged if its repository asks for that, and a release is cut if one is due. -/
theorem land_course (h : (o.land key).Path trace (.done ())) (known : Findings) : ∃ f : Findings,
    Course f (o.mergeCalls key ++ o.releaseCalls f key.source (o.releaseDue key f))
      (releaseEntry f key.source key.canonicalId (o.releaseDue key f)) (deedsOf trace) := by
  unfold land at h
  split at h
  · next hnone =>
    obtain ⟨rfl, -⟩ := h.pure_inv
    have hdue : o.releaseDue key known = none := by simp [releaseDue, hnone]
    have hcalls : o.mergeCalls key = [] := by simp [mergeCalls, hnone]
    rw [hcalls]
    exact ⟨known, by rw [hdue]; exact .nil⟩
  · next policy hpolicy =>
    split at h
    · next id target href =>
      split at h
      · next hmerge =>
        have hdue : ∀ f, o.releaseDue key f = (policy.releaseFor f.branch).map (f.branch, ·) :=
          fun f => by simp [releaseDue, landing, hpolicy, href, hmerge]
        have hcalls : o.mergeCalls key = [.merge key.source id] := by
          simp [mergeCalls, hpolicy, href, hmerge]
        obtain ⟨f, hcourse⟩ := mergeUpdate_course h known
        exact ⟨f, by rw [hcalls, hdue]; exact hcourse⟩
      · next hmerge =>
        obtain ⟨rfl, -⟩ := h.pure_inv
        have hdue : o.releaseDue key known = none := by
          simp [releaseDue, landing, hpolicy, href, hmerge]
        have hcalls : o.mergeCalls key = [] := by simp [mergeCalls, hpolicy, href, hmerge]
        exact ⟨known, by rw [hcalls, hdue]; exact .nil⟩
    · next name href =>
      have hdue : ∀ f, o.releaseDue key f = (policy.releaseFor name).map (name, ·) :=
        fun f => by simp [releaseDue, landing, hpolicy, href]
      have hcalls : o.mergeCalls key = [] := by simp [mergeCalls, hpolicy, href]
      obtain ⟨f, -, hcourse⟩ := onLanded_course h known
      exact ⟨f, by rw [hcalls, hdue]; exact hcourse⟩

theorem verify_course (h : (o.verify key).Path trace (.done ())) (known : Findings) :
    ∃ f : Findings, Course f
      (.setValidBuild key.source key.commit (logUrl o.logBase key.source key.canonicalId) ::
        (o.mergeCalls key ++ o.releaseCalls f key.source (o.releaseDue key f)))
      (releaseEntry f key.source key.canonicalId (o.releaseDue key f)) (deedsOf trace) := by
  obtain ⟨trace₁, rest, reply, rfl, hcall, h⟩ := h.bind_done_inv
  rw [deedsOf_append, deedsOf_call hcall]
  cases reply with
  | ok _ =>
    obtain ⟨f, hcourse⟩ := land_course h known
    exact ⟨f, hcourse.call trivial⟩
  | error e =>
    rw [deedsOf_log h]
    exact ⟨known, .failed _ e rfl (by simp [announces, Text.after?])⟩

theorem publish_course (h : (o.publish key).Path trace (.done ())) : ∃ f : Findings,
    Course f (o.pipeline key f)
      (releaseEntry f key.source key.canonicalId (o.releaseDue key f)) (deedsOf trace) := by
  -- The row up to the first failure does not depend on findings that are never made.
  have known : Findings := ⟨"", ⟨0, 0, 0⟩, key.commit⟩
  obtain ⟨trace₁, rest, reply, rfl, hcall, h⟩ := h.bind_done_inv
  rw [deedsOf_append, deedsOf_call hcall]
  cases reply with
  | ok names =>
    dsimp only at h
    split at h
    · obtain ⟨trace₂, rest₂, _, rfl, hlog, h⟩ := h.bind_done_inv
      obtain ⟨f, hcourse⟩ := verify_course h known
      rw [deedsOf_append, deedsOf_log hlog]
      refine ⟨f, .call (.note hcourse ?_ ?_) trivial⟩
      · simp
      · simp [announces, Text.after?]
    · obtain ⟨f, hcourse⟩ := verify_course h known
      exact ⟨f, hcourse.call trivial⟩
  | error e =>
    rw [deedsOf_log h]
    exact ⟨known, .failed _ e rfl (by simp [announces, Text.after?])⟩

end Paths

end BuildQueue.Orchestrator
