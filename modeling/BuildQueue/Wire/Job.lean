import BuildQueue.BuildLog
import BuildQueue.Git
import BuildQueue.Job.Outcome
import BuildQueue.Job.State
import BuildQueue.Json.Reader
import BuildQueue.Version

/-!
# The JSON forms of jobs

What other processes send and are sent: ids and keys as texts, states by their names, records by
their fields. Nothing can be read that does not stand for a value, so a commit id or a job key that
is read is one.
-/

namespace BuildQueue

/-- The value that a reader of texts gives, if it gives one. -/
def Json.parsed? {ε α : Type} (parse : String → Except ε α) (j : Json) : Option α := do
  (parse (← j.text?)).toOption

namespace Source

def toJson (s : Source) : Json := .record [("id", .text s.id), ("path", .text s.path)]

def ofJson? (j : Json) : Option Source := do
  let [some id, some path] ← j.fields? ["id", "path"] | none
  return ⟨← id.text?, ← path.text?⟩

end Source

namespace CommitId

def toJson (c : CommitId) : Json := .text c.text

def ofJson? (j : Json) : Option CommitId := j.parsed? parse

end CommitId

namespace JobRef

def toJson : JobRef → Json
  | update id target =>
    .record [("kind", .text "update"), ("update_id", .text id), ("target_branch", .text target)]
  | branch name => .record [("kind", .text "branch"), ("branch", .text name)]

def ofJson? (j : Json) : Option JobRef := do
  match ← j.tagged? "kind" 1 with
  | ("update", j) =>
    let [some id, some target] ← j.fields? ["update_id", "target_branch"] | none
    return update (← id.text?) (← target.text?)
  | ("branch", j) =>
    let [some name] ← j.fields? ["branch"] | none
    return branch (← name.text?)
  | _ => none

end JobRef

namespace JobKey

def toJson (k : JobKey) : Json := .text k.text

def ofJson? (j : Json) : Option JobKey := j.parsed? parse

end JobKey

namespace QueueState

def toJson (s : QueueState) : Json := .text s.name

def ofJson? (j : Json) : Option QueueState := do all.find? (·.name == (← j.choice?))

end QueueState

namespace JobOutcome

def toJson (o : JobOutcome) : Json :=
  .record [("outcome", .text o.kind.tag), ("key", o.key.toJson)]

def ofJson? (j : Json) : Option JobOutcome := do
  let (tag, key) ← j.choiceWith? "outcome" "key"
  return ⟨← OutcomeKind.ofTag? tag, ← JobKey.ofJson? key⟩

end JobOutcome

namespace GitRef

def toJson : GitRef → Json
  | branch name => .record [("type", .text "branch"), ("name", .text name)]
  | tag name => .record [("type", .text "tag"), ("name", .text name)]

def ofJson? (j : Json) : Option GitRef := do
  match ← j.choiceWith? "type" "name" with
  | ("branch", name) => return branch (← name.text?)
  | ("tag", name) => return tag (← name.text?)
  | _ => none

end GitRef

namespace Update

def toJson (u : Update) : Json :=
  .record [("source", u.source.toJson), ("update_id", .text u.id),
    ("target_branch", .text u.target), ("commit", u.commit.toJson)]

def ofJson? (j : Json) : Option Update := do
  let [some source, some id, some target, some commit] ←
    j.fields? ["source", "update_id", "target_branch", "commit"] | none
  return ⟨← Source.ofJson? source, ← id.text?, ← target.text?, ← CommitId.ofJson? commit⟩

end Update

namespace Bump

def toJson (b : Bump) : Json := .text b.name

def ofJson? (j : Json) : Option Bump := do ofName? (← j.choice?)

end Bump

namespace Version

def toJson (v : Version) : Json :=
  .record [("major", .nat v.major.toNat), ("minor", .nat v.minor.toNat),
    ("patch", .nat v.patch.toNat)]

def ofJson? (j : Json) : Option Version := do
  let [some major, some minor, some patch] ← j.fields? ["major", "minor", "patch"] | none
  return ⟨← major.word?, ← minor.word?, ← patch.word?⟩

end Version

namespace LogLevel

def toJson (l : LogLevel) : Json := .text l.name

def ofJson? (j : Json) : Option LogLevel := do ofName? (← j.choice?)

end LogLevel

end BuildQueue
