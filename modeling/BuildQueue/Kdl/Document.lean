import BuildQueue.Kdl.Token

/-!
# Documents from tokens

A node starts with its name, goes on with entries, each separated from what comes before, and ends
with a block, a semicolon, a line or the end of the text. A skip mark leaves out a node, an entry or
a block; nothing but blocks follows a block that is left out.
-/

namespace BuildQueue.Kdl

def skipLines (s : List Lexeme) : List Lexeme := s.dropWhile (·.token = .lineEnd)

/-- What follows a type annotation, if one comes next. -/
def afterType? : List Lexeme → Option (List Lexeme)
  | ⟨_, .typeStart⟩ :: ⟨_, .text _⟩ :: ⟨_, .typeEnd⟩ :: rest => some rest
  | ⟨_, .typeStart⟩ :: _ => none
  | rest => some rest

def value? (s : List Lexeme) : Option (Value × List Lexeme) := do
  match ← afterType? s with
  | ⟨_, .text t⟩ :: rest => return (.text t, rest)
  | ⟨_, .value v⟩ :: rest => return (v, rest)
  | _ => none

/-- Reads an entry: a value, or a name, an equals sign and a value. -/
def entry? : List Lexeme → Option (Entry × List Lexeme)
  | ⟨_, .text name⟩ :: ⟨_, .equals⟩ :: rest =>
    (value? rest).map fun (v, rest) => (⟨some name, v⟩, rest)
  | s => (value? s).map fun (v, rest) => (⟨none, v⟩, rest)

/-- A token with which an entry starts. -/
def Token.startsEntry : Token → Bool
  | text _ | value _ | typeStart => true
  | _ => false

/-- Reads the entries of a node. -/
def entries? : Nat → List Lexeme → Option (List Entry × List Lexeme)
  | 0, _ => none
  | fuel + 1, s =>
    match s with
    | [] => some ([], [])
    | ⟨_, .skip⟩ :: rest =>
      match skipLines rest with
      | ⟨_, .blockStart⟩ :: _ => some ([], s)
      | rest => do
        let (_, rest) ← entry? rest
        entries? fuel rest
    | ⟨spaced, t⟩ :: _ =>
      if !t.startsEntry then some ([], s)
      else if !spaced then none
      else do
        let (e, rest) ← entry? s
        let (es, rest) ← entries? fuel rest
        return (e :: es, rest)

/-- What follows the end of a node. A closing brace ends the last node before it. -/
def afterNode? : List Lexeme → Option (List Lexeme)
  | ⟨_, .semicolon⟩ :: rest | ⟨_, .lineEnd⟩ :: rest => some rest
  | s@(⟨_, .blockEnd⟩ :: _) => some s
  | [] => some []
  | _ => none

mutual

/-- Reads nodes up to a closing brace or the end of the text. -/
def nodes? : Nat → List Lexeme → Option (List Node × List Lexeme)
  | 0, _ => none
  | fuel + 1, s =>
    match skipLines s with
    | [] => some ([], [])
    | s@(⟨_, .blockEnd⟩ :: _) => some ([], s)
    | ⟨_, .skip⟩ :: rest => do
      let (_, rest) ← node? fuel (skipLines rest)
      nodes? fuel rest
    | s => do
      let (n, rest) ← node? fuel s
      let (ns, rest) ← nodes? fuel rest
      return (n :: ns, rest)

/-- Reads a node and what ends it. -/
def node? : Nat → List Lexeme → Option (Node × List Lexeme)
  | 0, _ => none
  | fuel + 1, s => do
    match ← afterType? s with
    | ⟨_, .text name⟩ :: rest =>
      let (entries, rest) ← entries? (rest.length + 1) rest
      let (children, rest) ← blocks? fuel none rest
      return (⟨name, entries, children.getD []⟩, ← afterNode? rest)
    | _ => none

/-- Reads the block of a node, if it has one, between blocks that are left out. -/
def blocks? : Nat → Option (List Node) → List Lexeme → Option (Option (List Node) × List Lexeme)
  | 0, _, _ => none
  | fuel + 1, taken, s =>
    match s with
    | ⟨_, .skip⟩ :: rest =>
      match skipLines rest with
      | ⟨_, .blockStart⟩ :: rest => do
        let (_, rest) ← block? fuel rest
        blocks? fuel taken rest
      | _ => none
    | ⟨_, .blockStart⟩ :: rest => do
      if taken.isSome then none
      else
        let (children, rest) ← block? fuel rest
        blocks? fuel (some children) rest
    | s => some (taken, s)

/-- Reads a block after its opening brace. -/
def block? : Nat → List Lexeme → Option (List Node × List Lexeme)
  | 0, _ => none
  | fuel + 1, s =>
    match nodes? fuel s with
    | some (ns, ⟨_, .blockEnd⟩ :: rest) => some (ns, rest)
    | _ => none

end

/-- Reads a document. Each node takes a token and at most four steps, so there are steps enough. -/
def Document.parse? (text : String) : Option Document := do
  let s ← lexemes? text
  match nodes? (4 * s.length + 4) s with
  | some (ns, []) => return ns
  | _ => none

end BuildQueue.Kdl
