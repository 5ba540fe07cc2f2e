import MessageQueue.Config
import MessageQueue.Database.Error
import MessageQueue.Database.Url
import MessageQueue.Text.Quoted

/-!
# Connection options

Where a client connects to and as whom.  The options come from the parts of the settings, or
from a URL, which then decides alone.  The pairs of the query of a URL override its other
parts, a later pair an earlier one; what no pair is known for is ignored.

Main results:

- Theorem `ofConfig_badScheme`: a URL of another scheme is refused.
-/

namespace MessageQueue
namespace Database

/-! ## Options -/

/-- How far a connection is encrypted. -/
inductive SslMode where
  | disable
  | allow
  | prefer
  | require
  | verifyCa
  | verifyFull
deriving DecidableEq, Repr

/-- The mode of a name in letters of either case. -/
def SslMode.ofName? (s : String) : Option SslMode :=
  match s.toLower with
  | "disable" => some disable
  | "allow" => some allow
  | "prefer" => some prefer
  | "require" => some require
  | "verify-ca" => some verifyCa
  | "verify-full" => some verifyFull
  | _ => none

/-- Where a client connects to and as whom. -/
structure ConnectOptions where
  host : String
  port : Int
  username : String
  password : Option String
  socket : Option String
  database : Option String
  applicationName : Option String
  sslMode : SslMode
  options : Option String
deriving DecidableEq

/-- Why a URL gives no options. -/
inductive UrlOptionsError where
  | badScheme
  | url (e : UrlError)
  | octets (e : Text.OctetError)
  | integer (e : Text.IntegerError)
  | sslMode (name : String)
  | address
deriving DecidableEq

/-- The wording of an options error. -/
def UrlOptionsError.message : UrlOptionsError → String
  | badScheme => "expected a postgres:// or postgresql:// scheme"
  | url e => (DriverError.configuration e.message).message
  | octets e => (DriverError.configuration e.message).message
  | integer e => (DriverError.configuration e.message).message
  | sslMode name =>
    let shown := Text.quote name
    let cause := DriverError.configuration ("unknown value " ++ shown ++ " for `ssl_mode`")
    (DriverError.configuration cause.message).message
  | address => (DriverError.configuration "invalid IP address syntax").message

namespace ConnectOptions

/-- What a client uses that was told nothing, given the user and the host of the machine. -/
def ofMachine (user host : String) : ConnectOptions where
  host
  port := 5432
  username := user
  password := none
  socket := none
  database := none
  applicationName := none
  sslMode := .prefer
  options := none

/-! ## Pairs of a query -/

/-- The options with a text added behind a blank. -/
def appendOption (o : ConnectOptions) (s : String) : ConnectOptions :=
  { o with options := some (match o.options with
      | none => s
      | some before => before ++ " " ++ s) }

/-- The options with a setting of the server added as it is; there is no blank behind an empty
text. -/
def appendSetting (o : ConnectOptions) (name value : String) : ConnectOptions :=
  let setting := "-c " ++ name ++ "=" ++ value
  { o with options := some (match o.options with
      | none | some "" => setting
      | some before => before ++ " " ++ setting) }

/-- The name between the brackets of a key such as `options[x]`. -/
def settingName? (key : String) : Option String :=
  match "options[".toList.isPrefixOf key.toList, (key.toList.drop 8).getLast? with
  | true, some ']' => some (String.ofList (key.toList.drop 8).dropLast)
  | _, _ => none

/-- Reads an integer of a query. -/
def readInteger (t : Text.IntType) (s : String) : Except UrlOptionsError Int :=
  (Text.readInteger t s.toList).mapError .integer

/-- The options with the value of a key; a socket takes the place of a host only when its path
is absolute. -/
def setPair (o : ConnectOptions) (key value : String) : Except UrlOptionsError ConnectOptions :=
  match key with
  | "sslmode" | "ssl-mode" =>
    match SslMode.ofName? value with
    | some mode => .ok { o with sslMode := mode }
    | none => .error (.sslMode value)
  | "statement-cache-capacity" => (readInteger .unsigned64 value).map fun _ => o
  | "host" =>
    if value.toList.head? = some '/' then .ok { o with socket := some value }
    else .ok { o with host := value }
  | "hostaddr" =>
    if Text.isInternetAddress value then .ok { o with host := value } else .error .address
  | "port" => (readInteger .unsigned16 value).map fun port => { o with port }
  | "dbname" => .ok { o with database := some value }
  | "user" => .ok { o with username := value }
  | "password" => .ok { o with password := some value }
  | "application_name" => .ok { o with applicationName := some value }
  | "options" => .ok (o.appendOption value)
  | key =>
    match settingName? key with
    | some name => .ok (o.appendSetting name value)
    | none => .ok o

/-- The options with the pairs of a query, one after the other. -/
def setPairs (o : ConnectOptions) : List (String × String) →
    Except UrlOptionsError ConnectOptions
  | [] => .ok o
  | (key, value) :: rest =>
    match o.setPair key value with
    | .error e => .error e
    | .ok o' => o'.setPairs rest

/-! ## URLs -/

/-- The text that a part of a URL stands for. -/
def decodePart (cs : List Char) : Except UrlOptionsError String :=
  (Text.readOctets (Text.percentDecode cs)).mapError .octets

/-- The options with the host of a URL; one that stands for an absolute path is a socket. -/
def setHost (o : ConnectOptions) (host : List Char) : Except UrlOptionsError ConnectOptions :=
  if (Text.percentDecode host).head? = some 0x2F then
    (decodePart host).map fun path => { o with socket := some path }
  else .ok { o with host := String.ofList host }

/-- The options of a part of a URL, unless it is empty. -/
def setPart (o : ConnectOptions) (part : List Char)
    (set : ConnectOptions → String → ConnectOptions) : Except UrlOptionsError ConnectOptions :=
  if part = [] then .ok o else (decodePart part).map (set o)

/-- The options of the parts of a URL. -/
def ofUrl (base : ConnectOptions) (u : Url) : Except UrlOptionsError ConnectOptions := do
  let o ← match u.host with
    | none => pure base
    | some host => base.setHost host
  let o : ConnectOptions := { o with port := (u.port.map Int.ofNat).getD o.port }
  let o ← o.setPart u.user fun o s => { o with username := s }
  let o ← o.setPart u.password fun o s => { o with password := some s }
  let o ← o.setPart u.path fun o s => { o with database := some s }
  o.setPairs (queryPairs u.query)

/-- The schemes of URLs of this kind, with the slashes behind them. -/
def schemes : List String := ["postgres://", "postgresql://"]

/-- The text behind the scheme and two slashes. -/
def afterScheme? (url : String) : Option (List Char) :=
  (schemes.find? fun s => s.toList.isPrefixOf url.toList).map fun s =>
    url.toList.drop s.length

/-- The options of a URL. -/
def ofUrlText (base : ConnectOptions) (url : String) : Except UrlOptionsError ConnectOptions :=
  match afterScheme? url with
  | none => .error .badScheme
  | some rest =>
    match Url.read (withoutBlanks rest) with
    | .error e => .error (.url e)
    | .ok parts => ofUrl base parts

/-! ## Settings -/

/-- The options of settings: those of their URL, or else their parts. -/
def ofConfig (base : ConnectOptions) (c : Config) : Except QueueError ConnectOptions :=
  match c.url with
  | some url =>
    (ofUrlText base url).mapError fun e => .config ("Invalid database URL: " ++ e.message)
  | none => .ok { base with
      host := c.host
      port := c.port
      database := some c.database
      username := c.username
      password := some c.password }

/-- A URL of another scheme is refused. -/
theorem ofConfig_badScheme (base : ConnectOptions) {c : Config} {url : String}
    (hurl : c.url = some url) (h : afterScheme? url = none) :
    ofConfig base c = .error (.config
      "Invalid database URL: expected a postgres:// or postgresql:// scheme") := by
  rw [ofConfig, hurl]
  simp only [ofUrlText, h]
  rfl

/-- The password as it is used: none when it is empty or the connection goes through a socket. -/
def usedPassword (o : ConnectOptions) : Option String :=
  match o.socket, o.password with
  | none, some "" => none
  | none, password => password
  | some _, _ => none

end ConnectOptions

/-! ## Connecting -/

/-- Opens the way to a server; what is told of the server beforehand comes first. -/
def connect {σ : Type} (base : ConnectOptions) (c : Config)
    (reach : σ → Except DriverError Unit) : Session σ QueueError ConnectOptions := do
  let options ← Session.ofExcept (ConnectOptions.ofConfig base c)
  Session.onStore fun s => ((reach s).mapError (DriverError.toQueueError none), s)
  Session.emit (.info "Connected to Postgres" [("host", .text c.host),
    ("database", .text c.database), ("pool_size", .integer c.poolSize)])
  return options

end Database
end MessageQueue
