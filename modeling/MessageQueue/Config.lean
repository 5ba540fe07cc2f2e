import MessageQueue.Client
import MessageQueue.Text.Blank
import MessageQueue.Text.Integer
import MessageQueue.Text.Quoted

/-!
# Settings

The settings of connection and client, read from named texts such as the variables of an
environment.  Every number is read before any of them is judged.  Shown settings hide the
password and the connection address, which may contain one.

Main results:

- Theorem `check_eq_ok_iff`: settings pass exactly when pool, visibility timeout and
  acquire timeout are in bounds.
- Theorem `shown_congr`: the shown form tells no secret.
-/

namespace MessageQueue

open Time (Duration)

/-- Settings of connection and client. -/
structure Config where
  url : Option String
  host : String
  port : Int
  database : String
  username : String
  password : String
  poolSize : Int
  vt : Int
  acquireTimeout : Duration
deriving DecidableEq

/-- Why settings are refused. -/
inductive ConfigError where
  | unreadable (variableName value : String) (cause : Text.IntegerError)
  | emptyPool
  | negativeVisibility (vt : Int)
  | zeroTimeout
deriving DecidableEq, Repr

/-- The wording of a settings error. -/
def ConfigError.message : ConfigError → String
  | unreadable name value cause => name ++ "=" ++ Text.quote value ++ ": " ++ cause.message
  | emptyPool => "pool size must be at least 1"
  | negativeVisibility vt => s!"visibility timeout must be non-negative: {vt}"
  | zeroTimeout => "acquire timeout must be greater than zero"

namespace Config

/-- Connections of a pool, unless told otherwise. -/
def defaultPoolSize : Int := 10

/-- How long a call waits for a connection, unless told otherwise. -/
def defaultAcquireTimeout : Duration := .ofSeconds 3

/-- The settings when nothing is told. -/
def default : Config where
  url := none
  host := "localhost"
  port := 5432
  database := "postgres"
  username := "postgres"
  password := "postgres"
  poolSize := defaultPoolSize
  vt := defaultVisibility
  acquireTimeout := defaultAcquireTimeout

/-! ## Reading -/

/-- A way to look up named texts. -/
abbrev Lookup := String → Option String

/-- The number in a variable, blanks around it aside; `none` when the variable is not set. -/
def readNumber (lookup : Lookup) (t : Text.IntType) (name : String) :
    Except ConfigError (Option Int) :=
  match lookup name with
  | none => .ok none
  | some value =>
    match Text.readInteger t (Text.trim value.toList) with
    | .ok n => .ok (some n)
    | .error cause => .error (.unreadable name value cause)

/-- A text that is not empty. -/
def nonEmpty (s : String) : Option String :=
  if s.isEmpty then none else some s

/-- Refuses an empty pool, then a negative visibility timeout, then no time to connect. -/
def check (c : Config) : Except ConfigError Config :=
  if c.poolSize = 0 then .error .emptyPool
  else if c.vt < 0 then .error (.negativeVisibility c.vt)
  else if c.acquireTimeout = .zero then .error .zeroTimeout
  else .ok c

/-- The settings before they are judged. -/
def gather (lookup : Lookup) : Except ConfigError Config := do
  let port ← readNumber lookup .unsigned16 "PGMQ_PORT"
  let poolSize ← readNumber lookup .unsigned32 "PGMQ_POOL_SIZE"
  let vt ← readNumber lookup .signed32 "PGMQ_VT"
  let timeout ← readNumber lookup .unsigned64 "PGMQ_ACQUIRE_TIMEOUT_MS"
  return {
    url := (lookup "DATABASE_URL").bind nonEmpty
    host := (lookup "PGMQ_HOST").getD default.host
    port := port.getD default.port
    database := (lookup "PGMQ_DATABASE").getD default.database
    username := (lookup "PGMQ_USER").getD default.username
    password := (lookup "PGMQ_PASSWORD").getD default.password
    poolSize := poolSize.getD default.poolSize
    vt := vt.getD default.vt
    acquireTimeout :=
      (timeout.map fun n => Duration.ofMilliseconds n.toNat).getD default.acquireTimeout }

/-- Reads the settings. -/
def ofLookup (lookup : Lookup) : Except ConfigError Config := do
  (← gather lookup).check

/-- Settings pass exactly when pool, visibility timeout and acquire timeout are in bounds. -/
theorem check_eq_ok_iff {c d : Config} :
    c.check = .ok d ↔
      c = d ∧ c.poolSize ≠ 0 ∧ 0 ≤ c.vt ∧ c.acquireTimeout ≠ Duration.zero := by
  simp only [check, ← Int.not_lt]
  by_cases hpool : c.poolSize = 0
  · simp [hpool]
  by_cases hvt : c.vt < 0
  · simp [hpool, hvt]
  by_cases htimeout : c.acquireTimeout = Duration.zero
  · simp [hpool, hvt, htimeout]
  · simp [hpool, hvt, htimeout]

/-! ## Showing -/

/-- What stands in place of a secret. -/
def redacted : String := "<redacted>"

/-- The fields as they are shown, with secrets hidden. -/
def shownFields (c : Config) : List (String × String) :=
  let hidden := Text.quote redacted
  let url := match c.url with
    | none => "None"
    | some _ => "Some(" ++ hidden ++ ")"
  [("url", url), ("host", Text.quote c.host), ("port", toString c.port),
    ("database", Text.quote c.database), ("username", Text.quote c.username),
    ("password", hidden), ("pool_size", toString c.poolSize), ("vt", toString c.vt),
    ("acquire_timeout", c.acquireTimeout.shown)]

/-- The settings on one line. -/
def shown (c : Config) : String :=
  "ClientConfig \x7b " ++ ", ".intercalate (c.shownFields.map fun f => f.1 ++ ": " ++ f.2) ++
    " \x7d"

/-- The settings on a line for each field; a secret that is wrapped takes three. -/
def shownPretty (c : Config) : String :=
  let url := match c.url with
    | none => "None"
    | some _ => "Some(\n        " ++ Text.quote redacted ++ ",\n    )"
  let fields := c.shownFields.map fun f => if f.1 = "url" then (f.1, url) else f
  "ClientConfig \x7b\n" ++ String.join (fields.map fun f => "    " ++ f.1 ++ ": " ++ f.2 ++ ",\n") ++
    "\x7d"

/-- The shown form tells no secret. -/
theorem shown_congr {c d : Config} (hurl : c.url.isSome = d.url.isSome) (hhost : c.host = d.host)
    (hport : c.port = d.port) (hdatabase : c.database = d.database)
    (huser : c.username = d.username) (hpool : c.poolSize = d.poolSize) (hvt : c.vt = d.vt)
    (htimeout : c.acquireTimeout = d.acquireTimeout) : c.shown = d.shown := by
  have h : c.shownFields = d.shownFields := by
    obtain ⟨_ | _⟩ := c <;> obtain ⟨_ | _⟩ := d <;> simp_all [shownFields]
  unfold shown
  rw [h]

end Config
end MessageQueue
