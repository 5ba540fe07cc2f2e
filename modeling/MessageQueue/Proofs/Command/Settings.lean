import MessageQueue.Command.Run
import MessageQueue.Proofs.Session

/-!
# Where the settings of a command come from

A command without an address of its own connects with the settings that are read from its
surroundings, as long as the address among the variables is not an empty text.  To the reader of
the settings an empty address is none, and the parts count; to a command it is an address, and not
a valid one.

Main results:

- Theorem `settings_eq_iff`: the settings of a command are the ones that are read exactly when the
  address is not set to the empty text.
- Theorem `settings_of_commandLine`: what a command line without an address comes to, whether or
  not the address is set to the empty text.
- Theorem `settings_differ_emptyAddress`: with an empty address the two differ.
-/

namespace MessageQueue

namespace Config

/-- A check changes nothing. -/
theorem eq_of_check {c d : Config} (h : c.check = .ok d) : c = d :=
  (check_eq_ok_iff.1 h).1

/-- Settings that are read have the address that is set, unless that is the empty text. -/
theorem url_of_gather {lookup : Lookup} {c : Config} (h : gather lookup = .ok c) :
    c.url = (lookup "DATABASE_URL").bind nonEmpty := by
  obtain ⟨_, -, h⟩ := exceptBind_eq_ok_iff.1 h
  obtain ⟨_, -, h⟩ := exceptBind_eq_ok_iff.1 h
  obtain ⟨_, -, h⟩ := exceptBind_eq_ok_iff.1 h
  obtain ⟨_, -, h⟩ := exceptBind_eq_ok_iff.1 h
  cases h
  rfl

theorem url_of_ofLookup {lookup : Lookup} {c : Config} (h : ofLookup lookup = .ok c) :
    c.url = (lookup "DATABASE_URL").bind nonEmpty := by
  obtain ⟨d, hgather, hcheck⟩ := exceptBind_eq_ok_iff.1 h
  rw [← eq_of_check hcheck, url_of_gather hgather]

end Config

namespace Command

open Database (ConnectOptions Server)

variable {σ : Type}

/-! ## Settings -/

/-- Without an address of its own a command has the settings that are read, but for an address that
is set to the empty text. -/
theorem settings_none {lookup : Config.Lookup} {c : Config} (h : Config.ofLookup lookup = .ok c) :
    settings lookup none =
      .ok (if lookup urlVariable = some "" then { c with url := some "" } else c) := by
  have hurl := Config.url_of_ofLookup h
  rw [settings, h, Except.map, Option.none_or]
  congr 1
  cases hset : lookup urlVariable with
  | none => simp
  | some url =>
    by_cases hempty : url = ""
    · simp [hempty]
    · have hread : c.url = some url := by
        rw [hurl, show lookup "DATABASE_URL" = some url from hset, Option.bind_some,
          Config.nonEmpty, if_neg (by simpa using hempty)]
      simp [← hread]

/-- The settings of a command are the ones that are read exactly when the address is not set to the
empty text. -/
theorem settings_eq_iff {lookup : Config.Lookup} {c : Config}
    (h : Config.ofLookup lookup = .ok c) :
    settings lookup none = .ok c ↔ lookup urlVariable ≠ some "" := by
  rw [settings_none h]
  by_cases hempty : lookup urlVariable = some ""
  · have hurl : c.url = none := by
      rw [Config.url_of_ofLookup h, show lookup "DATABASE_URL" = some "" from hempty]
      rfl
    have hne : { c with url := some "" } ≠ c := by
      intro heq
      have := congrArg Config.url heq
      rw [hurl] at this
      cases this
    simp [hempty, hne]
  · simp [hempty]

/-! ## Connecting -/

/-- The error of an address that is the empty text. -/
def emptyAddressError : QueueError :=
  .config "Invalid database URL: expected a postgres:// or postgresql:// scheme"

/-- The empty text is no address. -/
theorem ofConfig_emptyAddress (base : ConnectOptions) (c : Config) :
    ConnectOptions.ofConfig base { c with url := some "" } = .error emptyAddressError :=
  ConnectOptions.ofConfig_badScheme base rfl (by decide)

/-- What a command tells when its address is the empty text. -/
def emptyAddressTrouble (c : Config) : Request → Trouble
  | .setup _ => .of emptyAddressError.message
  | _ => (Trouble.of emptyAddressError.message).within
      ("Failed to connect to " ++ c.host ++ ":" ++ toString c.port)

/-- A command whose address is the empty text gets nowhere, whatever its host and port are. -/
theorem connecting_emptyAddress (s : Surroundings)
    (reach : σ → Except Database.DriverError Unit) (c : Config) (r : Request) (w : World σ) :
    connecting s reach { c with url := some "" } r w = (.error (emptyAddressTrouble c r), w) := by
  cases r with
  | setup noRetry =>
    rw [connecting, ofConfig_emptyAddress]
    rfl
  | _ =>
    simp only [connecting, Database.connect, ofConfig_emptyAddress]
    rfl

/-! ## Command lines -/

/-- A command connects with the settings that are read. -/
structure ConnectsAsRead (s : Surroundings) (server : Server σ)
    (reach : σ → Except Database.DriverError Unit) (i : Invocation) (c : Config)
    (w : World σ) : Prop where
  settings_eq : settings s.lookup i.databaseUrl = .ok c
  /-- It connects with them before it does its work. -/
  work_eq : work s server reach i w =
    (connecting s reach c i.request >>= fun _ =>
      perform s server ⟨Database.store server, c.vt⟩ i.request) w
  /-- The parts count exactly when no address is set. -/
  parts : c.url = none ↔ s.lookup urlVariable = none

/-- A command line fails for an empty address, although none is read. -/
structure FailsForEmptyAddress (s : Surroundings) (server : Server σ)
    (reach : σ → Except Database.DriverError Unit) (words : List String) (i : Invocation)
    (c : Config) (w : World σ) : Prop where
  unread : c.url = none
  settings_eq : settings s.lookup i.databaseUrl = .ok { c with url := some "" }
  run_eq : run s server reach words w = (⟨1, "", (emptyAddressTrouble c i.request).text⟩, w)

theorem connectsAsRead (s : Surroundings) (server : Server σ)
    (reach : σ → Except Database.DriverError Unit) {i : Invocation} {c : Config} (w : World σ)
    (hgiven : i.databaseUrl = none) (h : Config.ofLookup s.lookup = .ok c)
    (hset : s.lookup urlVariable ≠ some "") : ConnectsAsRead s server reach i c w := by
  have hsettings : settings s.lookup i.databaseUrl = .ok c := by
    rw [hgiven]
    exact (settings_eq_iff h).2 hset
  constructor
  · exact hsettings
  · rw [work, hsettings]
    rfl
  · have hurl : c.url = (s.lookup urlVariable).bind Config.nonEmpty := Config.url_of_ofLookup h
    rw [hurl]
    cases hurl : s.lookup urlVariable with
    | none => simp
    | some url =>
      have hne : url ≠ "" := fun heq => hset (by rw [hurl, heq])
      simp [Config.nonEmpty, hne]

theorem failsForEmptyAddress (s : Surroundings) (server : Server σ)
    (reach : σ → Except Database.DriverError Unit) {words : List String} {i : Invocation}
    {c : Config} (w : World σ)
    (hread : readWords (s.lookup "OPENAI_API_KEY") words = .ok i)
    (hgiven : i.databaseUrl = none) (h : Config.ofLookup s.lookup = .ok c)
    (hset : s.lookup urlVariable = some "") :
    FailsForEmptyAddress s server reach words i c w := by
  have hsettings : settings s.lookup i.databaseUrl = .ok { c with url := some "" } := by
    rw [hgiven, settings_none h, if_pos hset]
  have hwork : work s server reach i w = (.error (emptyAddressTrouble c i.request), w) := by
    rw [work, hsettings]
    rw [mapError_ok, Session.run_bind, Session.run_ofExcept]
    exact Session.run_bind_of_error _ (connecting_emptyAddress s reach c i.request w)
  constructor
  · rw [Config.url_of_ofLookup h, show s.lookup "DATABASE_URL" = some "" from hset]
    rfl
  · exact hsettings
  · simp only [run, hread, hwork]

/-- A command line without an address of its own connects with the settings that are read, as long
as the address is not set to the empty text, and fails if it is. -/
theorem settings_of_commandLine (s : Surroundings) (server : Server σ)
    (reach : σ → Except Database.DriverError Unit) {words : List String} {i : Invocation}
    {c : Config} (w : World σ)
    (hread : readWords (s.lookup "OPENAI_API_KEY") words = .ok i)
    (hgiven : i.databaseUrl = none) (h : Config.ofLookup s.lookup = .ok c) :
    (s.lookup urlVariable ≠ some "" → ConnectsAsRead s server reach i c w) ∧
      (s.lookup urlVariable = some "" → FailsForEmptyAddress s server reach words i c w) :=
  ⟨connectsAsRead s server reach w hgiven h, failsForEmptyAddress s server reach w hread hgiven h⟩

/-- Variables of which only the address is set. -/
def onlyAddress (url : String) : Config.Lookup :=
  fun name => if name = urlVariable then some url else none

/-- Surroundings with some variables, and nothing else of note. -/
def Surroundings.ofLookup (lookup : Config.Lookup) : Surroundings :=
  ⟨lookup, fun _ => .error "", ConnectOptions.ofMachine "user" "localhost", false, 0, 0⟩

/-- The listing of the queues, where an address and where an empty address is set. -/
theorem settings_of_listing :
    (ConnectsAsRead (.ofLookup (onlyAddress "postgres://u:p@h:1/d"))
        (fun _ s => (.error .poolClosed, s)) (fun _ => .ok ()) ⟨none, .list⟩
        { Config.default with url := some "postgres://u:p@h:1/d" } (World.ofStore ())) ∧
      FailsForEmptyAddress (.ofLookup (onlyAddress "")) (fun _ s => (.error .poolClosed, s))
        (fun _ => .ok ()) ["list"] ⟨none, .list⟩ Config.default (World.ofStore ()) := by
  have hlist : readWords none ["list"] = .ok ⟨none, .list⟩ := rfl
  constructor
  · exact (settings_of_commandLine _ _ _ _ hlist rfl rfl).1 (by decide)
  · exact (settings_of_commandLine _ _ _ _ hlist rfl rfl).2 rfl

/-- Where the address is set to the empty text, a command does not connect with the settings that
are read. -/
theorem settings_differ_emptyAddress :
    ¬ ∀ (lookup : Config.Lookup) (words : List String) (i : Invocation) (c : Config),
      Config.ofLookup lookup = .ok c →
      readWords (lookup "OPENAI_API_KEY") words = .ok i → i.databaseUrl = none →
      settings lookup i.databaseUrl = .ok c := by
  intro hall
  have hlist := hall (onlyAddress "") ["list"] ⟨none, .list⟩ Config.default rfl rfl rfl
  exact (settings_eq_iff rfl).1 hlist rfl

end Command
end MessageQueue
