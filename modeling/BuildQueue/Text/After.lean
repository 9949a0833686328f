/-!
# What follows a start
-/

namespace BuildQueue.Text

/-- What follows `start` in `s`, if `s` starts with it. -/
def after? (start s : String) : Option String :=
  if start.toList.isPrefixOf s.toList then some (String.ofList (s.toList.drop start.length))
  else none

end BuildQueue.Text
