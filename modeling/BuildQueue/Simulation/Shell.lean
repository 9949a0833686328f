import BuildQueue.Cli.Run

/-!
# Command lines in a simulated folder

A command runs in a folder that holds the given files and nothing else, and can reach one store.
-/

namespace BuildQueue.Simulation

/-- The files of a folder, by their paths within it. -/
structure Folder where
  files : List (String × List UInt8)

/-- The steps of a path; one that leads nowhere else is left out. -/
def steps (path : String) : List String :=
  (path.splitOn "/").filter fun s => s ≠ "" ∧ s ≠ "."

/-- Whether a path can only name a folder. -/
def namesFolder (path : String) : Bool :=
  match (path.splitOn "/").reverse with
  | [] | [_] => false
  | last :: _ => last = "" || last = "."

namespace Folder

/-- What reading a path within the folder gives. -/
def read (f : Folder) (path : String) : Except ReadFault (List UInt8) :=
  let wanted := steps path
  if path = "" then .error .missing
  else if wanted.all (· = "..") then .error .folder
  else if path.toList.head? = some '/' then .error .missing
  else
    match f.files.find? fun (name, _) => steps name = wanted with
    | some (_, bytes) => if namesFolder path then .error .notFolder else .ok bytes
    | none =>
      if f.files.any fun (name, _) => wanted.isPrefixOf (steps name) then .error .folder
      else if f.files.any fun (name, _) => (steps name).isPrefixOf wanted then .error .notFolder
      else .error .missing

end Folder

/-- What a command line has around it. -/
structure Shell where
  folder : Folder
  preset : Option String
  /-- The address of the store that can be reached, if there is one. -/
  storeUrl : Option String
  store : Shared

namespace Shell

/-- Answers a command. It asks for nothing that looks at the time. -/
def serve : (r : Cli.Request) → Shell → Cli.Reply r × Shell
  | .read path, s => (s.folder.read path, s)
  | .connect url, s => (s.storeUrl = some url, s)
  | .store call, s =>
    let (reply, store) := s.store.perform 0 call
    (reply, { s with store })

/-- Runs a command line. -/
def run (s : Shell) (args : List String) : Cli.Report :=
  ((Cli.run s.preset args).run serve s).1

end Shell

end BuildQueue.Simulation
