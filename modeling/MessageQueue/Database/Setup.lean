import MessageQueue.Database.Server
import MessageQueue.Retry

/-!
# Setting up a server

The queue functions are an extension that a server has to install once.  The server may
still be starting, so faults of the way to it, and no others, are tried again.
-/

namespace MessageQueue
namespace Database

/-- The text that installs the extension, unless it is there already. -/
def extensionSql : String := "CREATE EXTENSION IF NOT EXISTS pgmq CASCADE"

/-- Installs the extension, once. -/
def installOnce {σ : Type} (server : Server σ) : Session σ QueueError Unit := do
  let _ ← execute server none ⟨extensionSql, []⟩
  return ()

/-- Installs the extension; only faults of the way to the server are tried again. -/
def install {σ : Type} (server : Server σ) (policy : Retry.Policy) :
    Session σ QueueError Unit := do
  Session.emit (.info "Ensuring pgmq extension is installed..." [])
  policy.runIf "create extension pgmq" QueueError.message QueueError.isTransient
    (installOnce server)
  Session.emit (.info "pgmq extension ready" [])

end Database
end MessageQueue
