import MessageQueue.Bench.Loops
import MessageQueue.Command.Invocation
import MessageQueue.Command.Output
import MessageQueue.Database.ConnectOptions
import MessageQueue.Database.Setup
import MessageQueue.Database.Store
import MessageQueue.Rag.Agent

/-!
# Running commands

A command reads the settings, opens the way to the server, does its work and prints what
came of it.  The setup of a server opens no way beforehand, as the server may still be
starting.
-/

namespace MessageQueue
namespace Command

open Database (Server ConnectOptions)
open Time (Duration)

/-- What a command finds around it. -/
structure Surroundings where
  lookup : Config.Lookup
  fileText : String → Except String String
  machine : ConnectOptions
  terminal : Bool
  draw : Nat
  rounds : Nat

/-- How a command ended: its exit code and what it printed. -/
structure Ending where
  code : Nat
  output : String
  errors : String
deriving DecidableEq, Repr

/-! ## Settings -/

/-- The name of the variable with the address of the server. -/
def urlVariable : String := "DATABASE_URL"

/-- The settings of a command: an address that is given, or else set as a variable, even to an empty
text, counts. -/
def settings (lookup : Config.Lookup) (given : Option String) : Except ConfigError Config :=
  (Config.ofLookup lookup).map fun c =>
    match given.or (lookup urlVariable) with
    | none => c
    | some url => { c with url := some url }

/-! ## Work -/

section Work

variable {σ α : Type}

/-- Work that may fail with a trouble. -/
abbrev Work (σ : Type) := Session σ Trouble

/-- The trouble of a failure. -/
def troubleOf (f : Failure) : Trouble := .of (Bench.LoopFailure.failed f).message

/-- A step that reports errors. -/
def reporting (s : Session σ QueueError α) : Work σ α := s.mapError fun e => .of e.message

/-- A step of the client. -/
def calling (s : Session σ Failure α) : Work σ α := s.mapError troubleOf

/-- A step of a loop. -/
def looping (s : Bench.Loop σ α) : Work σ α := s.mapError fun e => .of e.message

/-- The agent of a name. -/
def agentOf (name : String) : Work σ RagProject :=
  .ofExcept ((RagProject.ofName name).mapError fun e => .of (QueueError.validation e.message).message)

/-- The chunks of a file. -/
def chunksOf (s : Surroundings) (path : String) : Work σ (List DocumentChunk) :=
  .ofExcept <|
    match s.fileText path with
    | .error reason => .error ((Trouble.of reason).within ("Failed to read " ++ path))
    | .ok text =>
      (readChunks text).mapError fun e =>
        let line := e.line
        (Trouble.of e.cause.message).within s!"{path}:{line}: invalid document chunk"

/-- A title and the summary of timings. -/
def summaryText (colors : Bool) (title : String) (timings : List Bench.Timing) : String :=
  linesText [paint colors .title title, Bench.summaryTable (Bench.summarize timings)]

/-- Does the work of a command and gives what it prints. -/
def perform (s : Surroundings) (server : Server σ) (c : Client σ) (r : Request) :
    Work σ String := do
  let colors := wantsColors s.lookup s.terminal
  match r with
  | .setup noRetry =>
    reporting (Database.install server (if noRetry then .single else .setup))
    return doneText colors "pgmq extension installed"
  | .create queue partitioned size retention =>
    let options :=
      if partitioned then (QueueOptions.ofPartitions size).withRetention retention
      else QueueOptions.plain
    calling (c.createWith queue options)
    return doneText colors s!"Queue {queue} created"
  | .send queue payload =>
    match Json.readText Json.Reader.any payload with
    | .error e => throw ((Trouble.of e.message).within "Invalid JSON payload")
    | .ok v =>
      let id ← calling (c.send queue (.json v))
      return doneText colors s!"Sent message {id}"
  | .read queue vt limit =>
    return messagesText colors (← calling (c.readBatch Message.anyPayload queue vt limit))
  | .pop queue =>
    return messagesText colors (← calling (c.pop Message.anyPayload queue)).toList
  | .archive queue id =>
    calling (c.archive queue id)
    return doneText colors s!"Message {id} archived"
  | .delete queue id =>
    calling (c.delete queue id)
    return doneText colors s!"Message {id} deleted"
  | .drop queue =>
    calling (c.drop queue)
    return doneText colors s!"Queue {queue} dropped"
  | .list => return queuesText colors (← calling c.list)
  | .metrics queue => return metricsText colors (← calling (c.metrics queue))
  | .bench queue count vt interval retention =>
    let number := s.draw % 101
    let queue := queue.getD s!"bench_queue_{number}"
    let options := Bench.benchOptions interval retention count
    Session.emit (.info "Starting benchmark" [("queue", .text queue),
      ("num_messages", .integer count), ("retention", .integer options.retentionInterval)])
    calling (Bench.ensureQueue c queue options)
    let timings ← looping (Bench.runBench c queue count vt)
    return summaryText colors s!"Benchmark results ({queue})" timings
  | .produce queue count interval =>
    calling (Bench.ensureQueue c queue .plain)
    let timings ← looping (Bench.produce c queue count (.ofMilliseconds interval))
    return summaryText colors "Producer results" timings
  | .consume queue seconds poll vt =>
    calling (Bench.ensureQueue c queue .plain)
    let timings ← looping
      (Bench.consume c queue (.ofSeconds seconds) (.ofMilliseconds poll) vt s.rounds)
    return summaryText colors "Consumer results" timings
  | .ragInit agent transformer =>
    let plain ← agentOf agent
    let project := (transformer.map plain.withTransformer).getD plain
    reporting (Rag.register server project)
    return doneText colors ("Agent " ++ project.agentName ++ " initialized")
  | .ragAddPrompt name system user =>
    reporting (Rag.addPrompt server name system user)
    return doneText colors s!"Prompt {name} added"
  | .ragLoad agent path =>
    let project ← agentOf agent
    let chunks ← chunksOf s path
    let loaded ← reporting (Rag.load server project chunks)
    return doneText colors (s!"Loaded {loaded} chunk(s) into " ++ project.tableName)
  | .ragQuery request =>
    let response ← reporting (Rag.ask server request)
    let items := response.context.length
    return linesText [response.chatResponse, "", paint colors .faint s!"{items} context item(s)"]

/-! ## Commands -/

/-- The way to the server for a command; the setup only reads its options. -/
def connecting (s : Surroundings) (reach : σ → Except Database.DriverError Unit) (c : Config)
    (r : Request) : Work σ ConnectOptions :=
  match r with
  | .setup _ => reporting (.ofExcept (ConnectOptions.ofConfig s.machine c))
  | _ =>
    (Database.connect s.machine c reach).mapError fun e =>
      (Trouble.of e.message).within ("Failed to connect to " ++ c.host ++ ":" ++ toString c.port)

/-- Runs a command and gives what it prints. -/
def work (s : Surroundings) (server : Server σ) (reach : σ → Except Database.DriverError Unit)
    (i : Invocation) : Work σ String := do
  let c ← Session.ofExcept <| (settings s.lookup i.databaseUrl).mapError fun e =>
    (Trouble.of (QueueError.config e.message).message).within "Invalid configuration"
  let _ ← connecting s reach c i.request
  perform s server ⟨Database.store server, c.vt⟩ i.request

/-- The text that tells the version. -/
def versionText : String := linesText ["pgmq 0.1.0"]

/-- Runs a command line to its end. -/
def run (s : Surroundings) (server : Server σ) (reach : σ → Except Database.DriverError Unit)
    (words : List String) (w : World σ) : Ending × World σ :=
  match readWords (s.lookup "OPENAI_API_KEY") words with
  | .error .version => (⟨0, versionText, ""⟩, w)
  | .error .help => (⟨0, "", ""⟩, w)
  | .error _ => (⟨2, "", ""⟩, w)
  | .ok i =>
    match work s server reach i w with
    | (.ok text, w') => (⟨0, text, ""⟩, w')
    | (.error t, w') => (⟨1, "", t.text⟩, w')

end Work
end Command
end MessageQueue
