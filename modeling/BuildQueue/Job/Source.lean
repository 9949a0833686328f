/-!
# Repositories
-/

namespace BuildQueue

/-- A repository known to a code-review system. -/
structure Source where
  /-- The review system or adapter, such as `github`. -/
  id : String
  /-- The repository's path within that system, such as `acme/widgets`. -/
  path : String
  deriving DecidableEq, Repr, Inhabited

namespace Source

/-- The name for people: the path after the system. -/
def display (s : Source) : String := s.id ++ "/" ++ s.path

instance : ToString Source := ⟨display⟩

end Source

end BuildQueue
