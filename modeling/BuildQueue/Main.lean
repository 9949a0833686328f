import BuildQueue.Cli.Run

/-!
# The command line

Reads files from disk. Stores cannot be reached from here, so commands that need one say so.
-/

namespace BuildQueue

def readFault : IO.Error → ReadFault
  | .noFileOrDirectory .. => .missing
  | .permissionDenied .. => .denied
  | .inappropriateType _ code _ => if code = 21 then .folder else .notFolder
  | e => .reported (toString e)

def serve : (r : Cli.Request) → IO (Cli.Reply r)
  | .read path => do
    try return .ok (← IO.FS.readBinFile ⟨path⟩).toList
    catch e => return .error (readFault e)
  | .connect _ => return false
  | .store _ => return .error .store

end BuildQueue

def main (args : List String) : IO UInt32 := do
  let preset ← IO.getEnv BuildQueue.Cli.configVariable
  let report ← (BuildQueue.Cli.run preset args).runM BuildQueue.serve
  IO.print report.output
  IO.eprint report.errors
  return report.exit.toUInt32
