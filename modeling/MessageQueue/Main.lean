import MessageQueue.Command.Run

/-!
# The program

Reads the command line and the variables of the environment, runs the command, prints what
it prints and ends with its exit code.  The program brings no network of its own, so the
server behind it is out of reach.
-/

namespace MessageQueue
namespace Main

/-- The variables that the program looks up. -/
def variableNames : List String :=
  ["DATABASE_URL", "PGMQ_HOST", "PGMQ_PORT", "PGMQ_DATABASE", "PGMQ_USER", "PGMQ_PASSWORD",
    "PGMQ_POOL_SIZE", "PGMQ_VT", "PGMQ_ACQUIRE_TIMEOUT_MS", "OPENAI_API_KEY", "CLICOLOR",
    "CLICOLOR_FORCE", "NO_COLOR", "PGUSER", "PGHOST"]

/-- The variables that are set. -/
def readVariables : IO (List (String × String)) := do
  let values ← variableNames.mapM fun name => do
    return (← IO.getEnv name).map (name, ·)
  return values.filterMap id

/-- The text of the file that a command line names, if it names one. -/
def readChunkFile (apiKey : Option String) (words : List String) : IO (Except String String) := do
  match Command.readWords apiKey words with
  | .ok ⟨_, .ragLoad _ path⟩ =>
    try
      return .ok (← IO.FS.readFile path)
    catch e => return .error e.toString
  | _ => return .error "no file"

/-- Runs the program. -/
def run (words : List String) : IO UInt32 := do
  let found ← readVariables
  let lookup : Config.Lookup := (found.lookup ·)
  let file ← readChunkFile (lookup "OPENAI_API_KEY") words
  let surroundings : Command.Surroundings := {
    lookup
    fileText := fun _ => file
    machine := .ofMachine ((lookup "PGUSER").getD "postgres") ((lookup "PGHOST").getD "localhost")
    terminal := ← (← IO.getStdout).isTty
    draw := ← IO.rand 0 255
    rounds := Nat.pow 2 64 }
  let script := Database.Script.ofReplies [] .unreachable
  let ending := (Command.run surroundings Database.Script.server Database.Script.reach words
    (.ofStore script)).1
  IO.print ending.output
  IO.eprint ending.errors
  return UInt32.ofNat ending.code

end Main
end MessageQueue

/-- Runs the program on its command line. -/
def main (words : List String) : IO UInt32 :=
  MessageQueue.Main.run words
