import MessageQueue.Command.Grammar
import MessageQueue.Rag.Request

/-!
# Commands

What the program can be asked to do, and how a command line asks for it.  Every level of the
command line knows the option for the address of the server; deeper levels override the
levels above.
-/

namespace MessageQueue
namespace Command

/-! ## Commands -/

/-- What the program is asked to do. -/
inductive Request where
  | setup (noRetry : Bool)
  | create (queue : String) (partitioned : Bool) (partitionSize retention : Int)
  | send (queue payload : String)
  | read (queue : String) (vt : Option Int) (limit : Int)
  | pop (queue : String)
  | archive (queue : String) (id : Int)
  | delete (queue : String) (id : Int)
  | drop (queue : String)
  | list
  | metrics (queue : String)
  | bench (queue : Option String) (count : Nat) (vt partitionInterval : Int)
      (retention : Option Int)
  | produce (queue : String) (count intervalMilliseconds : Nat)
  | consume (queue : String) (seconds pollMilliseconds : Nat) (vt : Int)
  | ragInit (agent : String) (transformer : Option String)
  | ragAddPrompt (name system user : String)
  | ragLoad (agent path : String)
  | ragQuery (r : RagRequest)
deriving DecidableEq, Repr

/-- A request with the address of the server, if the command line gives one. -/
structure Invocation where
  databaseUrl : Option String
  request : Request
deriving DecidableEq, Repr

/-! ## Levels -/

/-- The name of the option for the address of the server. -/
def urlOption : String := "database-url"

/-- A level with the option that all levels know. -/
def level (options : List OptionSpec) (operands : List ValueKind) (below : List String) :
    Level :=
  ⟨.long urlOption .text :: options, operands, below, false⟩

/-- The first level. -/
def topLevel : Level :=
  { level [] [] ["setup", "create", "send", "read", "pop", "archive", "delete", "drop", "list",
      "metrics", "bench", "produce", "consume", "rag"] with hasVersion := true }

/-- The level of the commands about agents. -/
def ragLevel : Level := level [] [] ["init", "add-prompt", "load", "query"]

/-- The level of a command, by its names from the first level on. -/
def leafLevel : List String → Option Level
  | ["setup"] => level [.switch "no-retry"] [] []
  | ["create"] => level [.switch "partitioned", .long "partition-size" (.integer .signed64),
      .long "retention" (.integer .signed64)] [.text] []
  | ["send"] => level [] [.text, .text] []
  | ["read"] => level [.long "vt" (.integer .signed32),
      .short "limit" 'n' (.integer .signed32)] [.text] []
  | ["pop"] | ["drop"] | ["metrics"] => level [] [.text] []
  | ["archive"] | ["delete"] => level [] [.text, .integer .signed64] []
  | ["list"] => level [] [] []
  | ["bench"] => level [.long "queue" .text,
      .short "num-messages" 'n' (.integer .unsigned64), .long "vt" (.integer .signed32),
      .long "partition-interval" (.integer .signed64),
      .long "retention" (.integer .signed64)] [] []
  | ["produce"] => level [.short "count" 'n' (.integer .unsigned64),
      .long "interval-ms" (.integer .unsigned64)] [.text] []
  | ["consume"] => level [.long "run-for-secs" (.integer .unsigned64),
      .long "poll-ms" (.integer .unsigned64), .long "vt" (.integer .signed32)] [.text] []
  | ["rag", "init"] => level [.long "transformer" .text] [.text] []
  | ["rag", "add-prompt"] => level [] [.text, .text, .text] []
  | ["rag", "load"] => level [] [.text, .path] []
  | ["rag", "query"] => level [.long "chat-model" .text, .long "prompt-template" .text,
      .long "api-key" .text, .long "num-context" (.integer .signed32),
      .long "force-trim" .boolean] [.text, .text] []
  | _ => none

/-! ## Requests -/

namespace Given

/-- The number that a text is. -/
def number (s : String) : Option Int := (Text.readInteger .signed64 s.toList).toOption

/-- The count that a text is. -/
def count (s : String) : Option Nat :=
  ((Text.readInteger .unsigned64 s.toList).toOption).map Int.toNat

/-- The number given for an option, or what stands for it. -/
def numberOr (g : Given) (name : String) (otherwise : Int) : Int :=
  ((g.value? name).bind number).getD otherwise

/-- The count given for an option, or what stands for it. -/
def countOr (g : Given) (name : String) (otherwise : Nat) : Nat :=
  ((g.value? name).bind count).getD otherwise

end Given

/-- The question that was given; without a key the one of the surroundings is used. -/
def questionOf (apiKey : Option String) (agent query : String) (g : Given) : RagRequest :=
  let plain := RagRequest.new agent query
  { plain with
    chatModel := (g.value? "chat-model").getD plain.chatModel
    promptTemplate := g.value? "prompt-template"
    apiKey := (g.value? "api-key").or apiKey
    numContext := (g.value? "num-context").bind Given.number
    forceTrim := (g.value? "force-trim").map (· = "true") }

/-- The request that was given at the level of a command. -/
def requestOf (apiKey : Option String) (names : List String) (g : Given) : Option Request :=
  match names, g.operands with
  | ["setup"], [] => some (.setup (g.has "no-retry"))
  | ["create"], [queue] => some (.create queue (g.has "partitioned")
      (g.numberOr "partition-size" 10000) (g.numberOr "retention" 100000))
  | ["send"], [queue, payload] => some (.send queue payload)
  | ["read"], [queue] => some (.read queue ((g.value? "vt").bind Given.number)
      (g.numberOr "limit" 1))
  | ["pop"], [queue] => some (.pop queue)
  | ["archive"], [queue, id] => (Given.number id).map (.archive queue)
  | ["delete"], [queue, id] => (Given.number id).map (.delete queue)
  | ["drop"], [queue] => some (.drop queue)
  | ["list"], [] => some .list
  | ["metrics"], [queue] => some (.metrics queue)
  | ["bench"], [] => some (.bench (g.value? "queue") (g.countOr "num-messages" 10000)
      (g.numberOr "vt" 10) (g.numberOr "partition-interval" 10000)
      ((g.value? "retention").bind Given.number))
  | ["produce"], [queue] => some (.produce queue (g.countOr "count" 1000)
      (g.countOr "interval-ms" 2))
  | ["consume"], [queue] => some (.consume queue (g.countOr "run-for-secs" 60)
      (g.countOr "poll-ms" 500) (g.numberOr "vt" 10))
  | ["rag", "init"], [agent] => some (.ragInit agent (g.value? "transformer"))
  | ["rag", "add-prompt"], [name, system, user] => some (.ragAddPrompt name system user)
  | ["rag", "load"], [agent, path] => some (.ragLoad agent path)
  | ["rag", "query"], [agent, query] => some (.ragQuery (questionOf apiKey agent query g))
  | _, _ => none

/-! ## Reading -/

/-- The levels below a name: those of the commands about agents, and none below any other. -/
def levelsBelow (name : String) : List String :=
  if name = "rag" then ragLevel.below else []

/-- What a request for help about some names amounts to; help itself is a command wherever there
are levels below, and has none below it. -/
def helpOn (below : List String) : List String → Stop
  | [] => .help
  | name :: rest =>
    if below ≠ [] && (name = "help" || below.contains name) then helpOn (levelsBelow name) rest
    else .unknownCommand name

/-- Reads the words for a command. -/
def readLeaf (apiKey url : Option String) (names words : List String) :
    Except Stop Invocation := do
  match leafLevel names with
  | none => throw .missingCommand
  | some leaf =>
    let g ← leaf.read words
    match requestOf apiKey names g with
    | none => throw .missingOperand
    | some request => return ⟨(g.value? urlOption).or url, request⟩

/-- Reads the words for a command about agents. -/
def readRag (apiKey url : Option String) (words : List String) : Except Stop Invocation := do
  let g ← ragLevel.read words
  match g.below with
  | none => throw .missingCommand
  | some ("help", rest) => throw (helpOn ragLevel.below rest)
  | some (name, rest) => readLeaf apiKey ((g.value? urlOption).or url) ["rag", name] rest

/-- Reads the words of a command line; without a key for answers the one of the surroundings is
used. -/
def readWords (apiKey : Option String) (words : List String) : Except Stop Invocation := do
  let g ← topLevel.read words
  match g.below with
  | none => throw .missingCommand
  | some ("help", rest) => throw (helpOn topLevel.below rest)
  | some ("rag", rest) => readRag apiKey (g.value? urlOption) rest
  | some (name, rest) => readLeaf apiKey (g.value? urlOption) [name] rest

end Command
end MessageQueue
