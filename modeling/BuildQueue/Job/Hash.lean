import BuildQueue.Job.Key

/-!
# Hashes of jobs

A table that files jobs by their hashes has to file a job and a change under what makes them the same
one, so that is what a hasher is fed with, text by text.
-/

namespace BuildQueue

/-- What a hash is computed with: it takes texts in and comes to a number. -/
structure Hasher where
  State : Type
  start : State
  take : State → String → State
  finish : State → UInt64

/-- The hash of texts that are taken in one after the other. -/
def Hasher.hash (h : Hasher) (texts : List String) : UInt64 :=
  h.finish (texts.foldl h.take h.start)

/-- The texts that a hasher takes in for a repository. -/
def Source.hashed (s : Source) : List String := [s.id, s.path]

/-- The texts that a hasher takes in for a change: its kind and its name. -/
def JobRef.hashed (r : JobRef) : List String := [r.kind.tag, r.key]

/-- The texts that a hasher takes in for a job. -/
def JobKey.hashed (k : JobKey) : List String := k.source.hashed ++ k.ref.hashed ++ [k.commit.text]

def JobRef.hash (h : Hasher) (r : JobRef) : UInt64 := h.hash r.hashed

def JobKey.hash (h : Hasher) (k : JobKey) : UInt64 := h.hash k.hashed

end BuildQueue
