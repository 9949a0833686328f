import BuildQueue.Job.Ref
import BuildQueue.Job.Source
import BuildQueue.Text.Fields

/-!
# Job keys

A job key names one unit of work: repository, change and commit. Its written form is a line of
percent-coded fields, `id:path:update:update id:target:commit` or `id:path:branch:branch:commit`,
and serves as the name of the job in the stores.
-/

namespace BuildQueue

open Text (Percent.encode)

/-- The identity of one unit of work. -/
structure JobKey where
  source : Source
  ref : JobRef
  commit : CommitId
  deriving DecidableEq, Repr

namespace JobKey

/-- What makes two keys name the same job. -/
def identity (k : JobKey) : Source × (RefKind × String) × CommitId :=
  (k.source, k.ref.identity, k.commit)

/-- Whether two keys name the same job. -/
def same (a b : JobKey) : Bool := a.identity == b.identity

def queueId (k : JobKey) : String := k.ref.queueId k.commit

def canonicalId (k : JobKey) : String := k.ref.canonicalId

/-- The character between two fields. -/
def separator : Char := ':'

/-- The fields of the written form. -/
def fields (k : JobKey) : List String :=
  Percent.encode k.source.id :: Percent.encode k.source.path :: k.ref.kind.tag ::
    match k.ref with
    | .update id target => [Percent.encode id, Percent.encode target, k.commit.text]
    | .branch name => [Percent.encode name, k.commit.text]

/-- The written form. -/
def text (k : JobKey) : String :=
  String.ofList (Text.Fields.join separator (k.fields.map String.toList))

instance : ToString JobKey := ⟨text⟩

/-- Reads one percent-coded field. -/
def decodeField (field : String) : Except ParseError String :=
  (Text.Percent.decode field).mapError (.fieldEncoding field)

/-- Reads the fields after the repository: the kind, what the kind needs, and the commit. -/
def parseRef (whole : String) : List String → Except ParseError (JobRef × CommitId)
  | ["update", id, target, commit] => do
    let ref ← JobRef.update <$> decodeField id <*> decodeField target
    return (ref, ← CommitId.parse commit)
  | ["branch", name, commit] => do
    let ref ← JobRef.branch <$> decodeField name
    return (ref, ← CommitId.parse commit)
  | kind :: rest =>
    if kind = "update" ∨ kind = "branch" then
      .error (.fieldCount (rest.length + 3) kind whole)
    else .error (.unknownKind kind)
  | [] => .error (.truncatedKey whole)

/-- Reads a written key. The repository's fields are looked at first, then the kind, then the
fields that it asks for, and the commit last. -/
def parse (s : String) : Except ParseError JobKey :=
  match (Text.Fields.split separator s.toList).map String.ofList with
  | id :: path :: rest =>
    if rest.length < 3 then .error (.truncatedKey s)
    else do
      let source ← Source.mk <$> decodeField id <*> decodeField path
      let (ref, commit) ← parseRef s rest
      return ⟨source, ref, commit⟩
  | _ => .error (.truncatedKey s)

end JobKey

end BuildQueue
