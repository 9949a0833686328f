import BuildQueue.Orchestrator.Basic

/-!
# Scripted surroundings

What the systems around the orchestrator answer in a simulation: for each call a list of replies in
order, and a default when the list has run out.
-/

namespace BuildQueue.Simulation

/-- A scripted value. -/
inductive Payload where
  | text (s : String)
  | flag (b : Bool)
  | names (xs : List String)
  | graph (g : DependencyGraph)
  /-- A rebase that made a new commit. -/
  | rebased (commit : String)
  deriving Repr

/-- A scripted reply: after how many milliseconds it comes, and what it is, if not the default. -/
structure Scripted where
  delay : Nat := 0
  result : Option (Except DomainError Payload) := none

/-- The replies that are left, by call or by call and subject. -/
abbrev Script := List (String × List Scripted)

namespace Script

/-- Takes the first reply under a name. -/
def takeOne (name : String) : Script → Option (Scripted × Script)
  | [] => none
  | (n, replies) :: rest =>
    if n = name then
      match replies with
      | [] => none
      | r :: more => some (r, (n, more) :: rest)
    else (takeOne name rest).map fun (r, rest) => (r, (n, replies) :: rest)

/-- Takes the reply to a call: one for its subject first, then one for any. -/
def take (s : Script) (c : Call) : Scripted × Script :=
  match s.takeOne (c.name ++ ":" ++ c.subject) with
  | some r => r
  | none =>
    match s.takeOne c.name with
    | some r => r
    | none => ({}, s)

end Script

/-- The commit at the tip of every branch for which the script says nothing. -/
def defaultHead : CommitId where
  digits := (List.replicate 36 0 ++ [11, 14, 14, 15]).map fun d =>
    ⟨d % 16, Nat.mod_lt d (by decide)⟩
  length_eq := .inl rfl

/-- What a call answers for which the script says nothing, where `version` is the current one of
every repository. -/
def defaultAnswer (version : Version) : (c : Call) → c.Answer
  | .rebase .. => RebaseResult.upToDate
  | .merge .. => "main"
  | .branchHead .. => defaultHead
  | .nextVersion _ _ bump => version.bump bump
  | .hasBuildDefinition .. => true
  | .dependencyGraph .. => DependencyGraph.empty
  | .publish key => [key.source.path ++ ":" ++ key.commit.short]
  | .setValidBuild .. => ()
  | .createTag .. => ()
  | .createBranch .. => ()
  | .invalidateGit _ => ()
  | .invalidateModel _ => ()
  | .rescan .. => ()
  | .startJob _ => ()
  | .abortJob _ => ()

def readCommit (s : String) : Except DomainError CommitId := (CommitId.parse s).mapError .parse

/-- A scripted value as the answer to a call. -/
def answerOf (version : Version) : (c : Call) → Payload → Except DomainError c.Answer
  | .rebase .., .text "conflict" => .ok RebaseResult.conflict
  | .rebase .., .rebased commit => (readCommit commit).map RebaseResult.rebased
  | .merge .., .text branch => .ok branch
  | .branchHead .., .text commit => readCommit commit
  | .nextVersion _ _ bump, .text tag => .ok ((Version.ofTag? tag).getD (version.bump bump))
  | .hasBuildDefinition .., .flag b => .ok b
  | .dependencyGraph .., .graph g => .ok g
  | .publish _, .names xs => .ok xs
  | c, _ => .ok (defaultAnswer version c)

/-- What a scripted reply answers to a call. -/
def Scripted.answer (version : Version) (r : Scripted) (c : Call) : Except DomainError c.Answer :=
  match r.result with
  | none => .ok (defaultAnswer version c)
  | some (.error e) => .error e
  | some (.ok payload) => answerOf version c payload

end BuildQueue.Simulation
