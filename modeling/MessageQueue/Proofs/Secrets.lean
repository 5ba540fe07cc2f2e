import MessageQueue.Proofs.Configuration

/-!
# Secrets among the settings

The password and the connection address are secrets.  To hide them in the variables and then read
the settings is the same as to read the settings and then hide them there, and hidden secrets change
nothing about how settings are shown.  So variables that differ in their secrets only are told
alike: the same error, or settings that look the same on one line and on many.

Main results:

- Theorem `ofLookup_hideLookup`: reading and hiding commute.
- Theorem `shown_hide` and `shownPretty_hide`: what is shown are settings with their secrets hidden.
- Theorem `ofLookup_toldAlike`: secrets do not influence what is told.
-/

namespace MessageQueue
namespace Config

variable {lookup lookup₂ : Lookup}

/-! ## Hiding secrets -/

/-- The settings with the texts of their secrets hidden. -/
def hide (c : Config) : Config :=
  { c with url := c.url.map fun _ => redacted, password := redacted }

/-- The variables with the texts of the secrets hidden; an empty address counts for none. -/
def hideLookup (lookup : Lookup) : Lookup := fun name =>
  if name = "PGMQ_PASSWORD" then some redacted
  else if name = "DATABASE_URL" then ((lookup name).bind nonEmpty).map fun _ => redacted
  else lookup name

theorem hideLookup_of_ne {name : String} (hpassword : name ≠ "PGMQ_PASSWORD")
    (hurl : name ≠ "DATABASE_URL") : hideLookup lookup name = lookup name := by
  rw [hideLookup, if_neg hpassword, if_neg hurl]

/-- A hidden address is there exactly when an address is. -/
theorem hideLookup_url :
    (hideLookup lookup "DATABASE_URL").bind nonEmpty =
      ((lookup "DATABASE_URL").bind nonEmpty).map fun _ => redacted := by
  have hredacted : nonEmpty redacted = some redacted := rfl
  rw [hideLookup, if_neg (by decide), if_pos rfl]
  cases (lookup "DATABASE_URL").bind nonEmpty with
  | none => rfl
  | some url => simp only [Option.map_some, Option.bind_some, hredacted]

/-! ## What is shown -/

theorem shownFields_hide (c : Config) : c.hide.shownFields = c.shownFields := by
  obtain ⟨_ | url, _⟩ := c <;> rfl

/-- Hidden secrets do not change the settings as they are shown on one line. -/
@[simp]
theorem shown_hide (c : Config) : c.hide.shown = c.shown := by
  rw [shown, shown, shownFields_hide]

/-- Hidden secrets do not change the settings as they are shown on many lines. -/
@[simp]
theorem shownPretty_hide (c : Config) : c.hide.shownPretty = c.shownPretty := by
  rw [shownPretty, shownPretty, shownFields_hide]
  obtain ⟨_ | url, _⟩ := c <;> rfl

/-! ## What is read -/

/-- No variable with a number is a secret. -/
theorem number_hideLookup (v : Variable) : number (hideLookup lookup) v = number lookup v := by
  have hname : hideLookup lookup v.name = lookup v.name := by
    cases v <;> exact hideLookup_of_ne (by decide) (by decide)
  rw [number, number, readNumber, readNumber, hname]

theorem assembled_hideLookup (port poolSize vt timeout : Int) :
    assembled (hideLookup lookup) port poolSize vt timeout =
      (assembled lookup port poolSize vt timeout).hide := by
  have hpassword : (hideLookup lookup "PGMQ_PASSWORD").getD "postgres" = redacted := by
    rw [hideLookup, if_pos rfl, Option.getD_some]
  have hhost : hideLookup lookup "PGMQ_HOST" = lookup "PGMQ_HOST" :=
    hideLookup_of_ne (by decide) (by decide)
  have hdatabase : hideLookup lookup "PGMQ_DATABASE" = lookup "PGMQ_DATABASE" :=
    hideLookup_of_ne (by decide) (by decide)
  have huser : hideLookup lookup "PGMQ_USER" = lookup "PGMQ_USER" :=
    hideLookup_of_ne (by decide) (by decide)
  rw [assembled, hideLookup_url, hpassword, hhost, hdatabase, huser]
  rfl

/-- Hidden secrets do not decide whether settings pass. -/
theorem check_hide (c : Config) : c.hide.check = c.check.map hide := by
  by_cases hpool : c.poolSize = 0
  · simp [check, hide, hpool, Except.map]
  by_cases hvt : c.vt < 0
  · simp [check, hide, hpool, hvt, Except.map]
  by_cases htimeout : c.acquireTimeout = .zero
  · simp [check, hide, hpool, hvt, htimeout, Except.map]
  · simp [check, hide, hpool, hvt, htimeout, Except.map]

/-- Gathering the settings of hidden secrets hides the secrets of the settings. -/
theorem gather_hideLookup : gather (hideLookup lookup) = (gather lookup).map hide := by
  simp only [gather_eq, number_hideLookup, assembled_hideLookup]
  cases number lookup .port with
  | error e => rfl
  | ok port =>
  cases number lookup .poolSize with
  | error e => rfl
  | ok poolSize =>
  cases number lookup .vt with
  | error e => rfl
  | ok vt =>
  cases number lookup .timeout with
  | error e => rfl
  | ok timeout => rfl

/-- Reading and hiding commute. -/
theorem ofLookup_hideLookup : ofLookup (hideLookup lookup) = (ofLookup lookup).map hide := by
  have hbind : ∀ l : Lookup, ofLookup l = gather l >>= check := fun _ => rfl
  rw [hbind, hbind, gather_hideLookup]
  cases gather lookup with
  | error e => rfl
  | ok c => exact check_hide c

/-! ## Two readings -/

/-- Variables that agree but for the texts of the secrets. -/
structure SameButSecrets (lookup lookup₂ : Lookup) : Prop where
  others : ∀ name, name ≠ "PGMQ_PASSWORD" → name ≠ "DATABASE_URL" → lookup name = lookup₂ name
  /-- The address is missing or empty for both or for none. -/
  url : (lookup "DATABASE_URL").getD "" = "" ↔ (lookup₂ "DATABASE_URL").getD "" = ""

theorem map_bind_nonEmpty {o : Option String} :
    ((o.bind nonEmpty).map fun _ => redacted) = if o.getD "" = "" then none else some redacted := by
  cases o with
  | none => rfl
  | some s =>
      simp only [Option.bind_some, nonEmpty, Option.getD_some, String.isEmpty_iff]
      split <;> rfl

/-- Nothing is left of the difference when the secrets are hidden. -/
theorem SameButSecrets.hideLookup_eq (h : SameButSecrets lookup lookup₂) :
    hideLookup lookup = hideLookup lookup₂ := by
  funext name
  by_cases hpassword : name = "PGMQ_PASSWORD"
  · rw [hideLookup, hideLookup, if_pos hpassword, if_pos hpassword]
  by_cases hurl : name = "DATABASE_URL"
  · subst hurl
    rw [hideLookup, hideLookup, if_neg hpassword, if_neg hpassword, if_pos rfl, if_pos rfl,
      map_bind_nonEmpty, map_bind_nonEmpty]
    simp only [h.url]
  · rw [hideLookup_of_ne hpassword hurl, hideLookup_of_ne hpassword hurl,
      h.others name hpassword hurl]

/-- Two readings of settings that nobody can tell apart: both end with one error, or both end with
settings that are shown alike. -/
inductive ToldAlike : Except ConfigError Config → Except ConfigError Config → Prop
  | refused (e : ConfigError) : ToldAlike (.error e) (.error e)
  | read {c d : Config} (hshown : c.shown = d.shown) (hpretty : c.shownPretty = d.shownPretty) :
      ToldAlike (.ok c) (.ok d)

/-- Readings that agree when their secrets are hidden are told alike. -/
theorem ToldAlike.of_map_hide {r s : Except ConfigError Config} (h : r.map hide = s.map hide) :
    ToldAlike r s := by
  cases r with
  | error e =>
      cases s with
      | error f =>
          cases Except.error.inj h
          exact .refused e
      | ok d => cases h
  | ok c =>
      cases s with
      | error f => cases h
      | ok d =>
          have hhide : c.hide = d.hide := Except.ok.inj h
          apply ToldAlike.read
          · rw [← shown_hide c, hhide, shown_hide]
          · rw [← shownPretty_hide c, hhide, shownPretty_hide]

/-- Secrets do not influence what is told. -/
theorem ofLookup_toldAlike (h : SameButSecrets lookup lookup₂) :
    ToldAlike (ofLookup lookup) (ofLookup lookup₂) := by
  apply ToldAlike.of_map_hide
  rw [← ofLookup_hideLookup, ← ofLookup_hideLookup, h.hideLookup_eq]

/-- Variables of which only the secrets and one number are set. -/
def secretsAnd (number password url : String) : Lookup := fun name =>
  if name = "PGMQ_PASSWORD" then some password
  else if name = "DATABASE_URL" then some url
  else if name = "PGMQ_VT" then some number
  else none

/-- Secrets that look like shown settings are told like any others, whether the settings are read
or not. -/
theorem ofLookup_toldAlike_secretsAnd :
    ofLookup (secretsAnd "7" "<redacted>" "None, host: \"h\"") ≠
        ofLookup (secretsAnd "7" "localhost" "postgres://u:p@h/d") ∧
      ToldAlike (ofLookup (secretsAnd "7" "<redacted>" "None, host: \"h\""))
        (ofLookup (secretsAnd "7" "localhost" "postgres://u:p@h/d")) ∧
      ofLookup (secretsAnd "x" "x" "x") = .error (.unreadable "PGMQ_VT" "x" .invalidDigit) ∧
      ToldAlike (ofLookup (secretsAnd "x" "x" "x")) (ofLookup (secretsAnd "x" "y" "z")) := by
  have hsame : ∀ number password url password' url' : String, url ≠ "" → url' ≠ "" →
      SameButSecrets (secretsAnd number password url) (secretsAnd number password' url') := by
    intro number password url password' url' hurl hurl'
    constructor
    · intro name hpassword hname
      simp only [secretsAnd, if_neg hpassword, if_neg hname]
    · exact ⟨fun h => absurd h hurl, fun h => absurd h hurl'⟩
  refine ⟨?_, ofLookup_toldAlike (hsame _ _ _ _ _ (by decide) (by decide)), rfl,
    ofLookup_toldAlike (hsame _ _ _ _ _ (by decide) (by decide))⟩
  intro h
  have hpassword : "<redacted>" = "localhost" :=
    congrArg Config.password (Option.some.inj (congrArg Except.toOption h))
  exact absurd hpassword (by decide)

end Config
end MessageQueue
