/-!
# Configuration documents

A document is a list of nodes. A node has a name, values with or without names of their own, and
nodes below it. Comments and type annotations say nothing here, so they are not kept.
-/

namespace BuildQueue.Kdl

inductive Value where
  | text (s : String)
  | integer (n : Int)
  /-- A number with a point or an exponent, infinite, or not a number; as written. -/
  | real (literal : String)
  | boolean (b : Bool)
  | null
  deriving DecidableEq, Repr

namespace Value

def text? : Value → Option String
  | text s => some s
  | _ => none

def integer? : Value → Option Int
  | integer n => some n
  | _ => none

def boolean? : Value → Option Bool
  | boolean b => some b
  | _ => none

end Value

/-- A value that a node is given; one without a name is an argument. -/
structure Entry where
  name : Option String
  value : Value
  deriving DecidableEq, Repr

structure Node where
  name : String
  entries : List Entry
  children : List Node

namespace Node

/-- The values without names, in order. -/
def arguments (n : Node) : List Value :=
  n.entries.filterMap fun e => if e.name.isNone then some e.value else none

/-- The texts among the arguments. -/
def texts (n : Node) : List String := n.arguments.filterMap Value.text?

/-- The first argument, if it is a text. -/
def text? (n : Node) : Option String := n.arguments.head?.bind Value.text?

/-- The first argument, if it is an integer. -/
def integer? (n : Node) : Option Int := n.arguments.head?.bind Value.integer?

/-- The first argument, if it is a boolean. -/
def boolean? (n : Node) : Option Bool := n.arguments.head?.bind Value.boolean?

end Node

/-- The top level of a document. -/
abbrev Document := List Node

end BuildQueue.Kdl
