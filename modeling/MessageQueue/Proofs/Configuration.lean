import MessageQueue.Config
import MessageQueue.Proofs.Session
import MessageQueue.Proofs.Text.Numerals

/-!
# Reading the settings

Four variables hold numbers, each of a type of its own, and three of these numbers have a bound.
Settings are read when every variable that is set stands for a number of its type and within its
bound.  Otherwise the first variable that stands for no number of its type tells the error; bounds
count only when there is none, and then the first number out of its bound does.

Main results:

- Theorem `number_eq_ok_iff`: which texts of a variable are read.
- Theorem `ofLookup_eq_ok_iff`: the settings that are read.
- Theorem `ofLookup_exact`: when settings are read, and which error there is otherwise.
-/

namespace MessageQueue
namespace Config

open Text (Denotes IntType)
open Time (Duration)


/-! ## Variables with numbers -/

/-- The variables that hold numbers. -/
inductive Variable where
  | port
  | poolSize
  | vt
  | timeout
deriving DecidableEq, Repr

variable {lookup : Lookup} {c : Config} {e : ConfigError} {v : Variable} {n : Int}

namespace Variable

/-- The name of a variable. -/
def name : Variable → String
  | port => "PGMQ_PORT"
  | poolSize => "PGMQ_POOL_SIZE"
  | vt => "PGMQ_VT"
  | timeout => "PGMQ_ACQUIRE_TIMEOUT_MS"

/-- The type of the number in a variable. -/
def type : Variable → IntType
  | port => .unsigned16
  | poolSize => .unsigned32
  | vt => .signed32
  | timeout => .unsigned64

/-- The number that counts when a variable is not set. -/
def usual : Variable → Int
  | port => 5432
  | poolSize => 10
  | vt => 30
  | timeout => 3000

/-- The least number that is let in. -/
def least : Variable → Int
  | port | vt => 0
  | poolSize | timeout => 1

/-- What is told of a number that is not let in, if there are any of the type. -/
def fault? : Variable → Int → Option ConfigError
  | port, _ => none
  | poolSize, _ => some .emptyPool
  | vt, n => some (.negativeVisibility n)
  | timeout, _ => some .zeroTimeout

/-- The variables in the order that they are read in. -/
def all : List Variable := [port, poolSize, vt, timeout]

/-- The variables whose numbers are judged, in the order that they are judged in. -/
def judged : List Variable := [poolSize, vt, timeout]

end Variable

/-- What a variable tells: nothing when it is not set, or the number that its text stands for. -/
inductive Tells (lookup : Lookup) (v : Variable) : Option Int → Prop
  | nothing (hunset : lookup v.name = none) : Tells lookup v none
  | number {s : String} {n : Int} (hset : lookup v.name = some s)
      (hdenotes : Denotes v.type s.toList n) : Tells lookup v (some n)

/-- The number that counts for a variable: the one that it tells, or the usual one. -/
def Counts (lookup : Lookup) (v : Variable) (n : Int) : Prop :=
  ∃ o, Tells lookup v o ∧ o.getD v.usual = n

/-- A variable can be read when it is not set or stands for a number of its type. -/
def Readable (lookup : Lookup) (v : Variable) : Prop := ∃ o, Tells lookup v o

/-- A variable is let in when it is not set or stands for a number of its type that is not below the
least. -/
def InBounds (lookup : Lookup) (v : Variable) : Prop :=
  ∃ o, Tells lookup v o ∧ ∀ n ∈ o, v.least ≤ n

/-- The first of some variables that is not as it should be. -/
def IsFirst (fine : Variable → Prop) (v : Variable) (vs : List Variable) : Prop :=
  ∃ before after, vs = before ++ v :: after ∧ (∀ u ∈ before, fine u) ∧ ¬fine v

/-! ## Reading a number -/

/-- The number in a variable as it is read. -/
def number (lookup : Lookup) (v : Variable) : Except ConfigError (Option Int) :=
  readNumber lookup v.type v.name

/-- What is read is what a variable tells. -/
theorem number_eq_ok_iff {o : Option Int} : number lookup v = .ok o ↔ Tells lookup v o := by
  unfold number readNumber
  constructor
  · intro h
    split at h
    next hunset =>
      cases h
      exact .nothing hunset
    next s hset =>
      split at h
      next n hread =>
        cases h
        exact .number hset (Text.readInteger_trim_eq_ok_iff.1 hread)
      next => cases h
  · intro h
    cases h with
    | nothing hunset => rw [hunset]
    | number hset hdenotes => simp only [hset, Text.readInteger_trim_eq_ok_iff.2 hdenotes]

/-- A variable tells one thing. -/
theorem Tells.eq {o o' : Option Int} (h : Tells lookup v o) (h' : Tells lookup v o') : o = o' := by
  rw [← number_eq_ok_iff] at h h'
  exact Except.ok.inj (h.symm.trans h')

/-- What counts for a variable is a number of its type. -/
theorem Counts.lowest_le (h : Counts lookup v n) : v.type.lowest ≤ n := by
  obtain ⟨o, htells, rfl⟩ := h
  cases htells with
  | nothing => cases v <;> decide
  | number hset hdenotes =>
      obtain ⟨_, _, _, -, -, -, -, hlowest, -⟩ := hdenotes
      exact hlowest

/-- What is not let in is not the usual number. -/
theorem Counts.tells (h : Counts lookup v n) (hlt : n < v.least) : Tells lookup v (some n) := by
  obtain ⟨o, htells, rfl⟩ := h
  cases htells with
  | nothing => cases v <;> exact absurd hlt (by decide)
  | number hset hdenotes => exact .number hset hdenotes

theorem Counts.not_inBounds (h : Counts lookup v n) (hlt : n < v.least) : ¬InBounds lookup v := by
  rintro ⟨o, htells, hle⟩
  exact absurd hlt (Int.not_lt.2 (hle n (htells.eq (h.tells hlt))))

/-- A variable is let in when the number that counts for it is. -/
theorem inBounds_iff : InBounds lookup v ↔ ∃ n, Counts lookup v n ∧ v.least ≤ n := by
  constructor
  · rintro ⟨o, htells, hle⟩
    refine ⟨_, ⟨o, htells, rfl⟩, ?_⟩
    cases o with
    | none => cases v <;> decide
    | some n => exact hle n rfl
  · rintro ⟨n, ⟨o, htells, rfl⟩, hle⟩
    refine ⟨o, htells, ?_⟩
    rintro m rfl
    exact hle

/-- The error of a number tells the variable and its text. -/
theorem number_eq_error (h : number lookup v = .error e) :
    ¬Readable lookup v ∧ ∃ s cause, lookup v.name = some s ∧ e = .unreadable v.name s cause := by
  constructor
  · rintro ⟨o, htells⟩
    rw [number_eq_ok_iff.2 htells] at h
    cases h
  · unfold number readNumber at h
    split at h
    next => cases h
    next s hset =>
      split at h
      next => cases h
      next cause hread =>
        cases h
        exact ⟨s, cause, hset, rfl⟩

/-! ## Gathering the settings -/

/-- The settings with given numbers, and with the texts of the other variables. -/
def assembled (lookup : Lookup) (port poolSize vt timeout : Int) : Config where
  url := (lookup "DATABASE_URL").bind nonEmpty
  host := (lookup "PGMQ_HOST").getD "localhost"
  port := port
  database := (lookup "PGMQ_DATABASE").getD "postgres"
  username := (lookup "PGMQ_USER").getD "postgres"
  password := (lookup "PGMQ_PASSWORD").getD "postgres"
  poolSize := poolSize
  vt := vt
  acquireTimeout := .ofMilliseconds timeout.toNat

/-- The numbers are read one after the other. -/
theorem gather_eq (lookup : Lookup) :
    gather lookup = (number lookup .port >>= fun port => number lookup .poolSize >>= fun poolSize =>
      number lookup .vt >>= fun vt => number lookup .timeout >>= fun timeout =>
        .ok (assembled lookup (port.getD Variable.port.usual)
          (poolSize.getD Variable.poolSize.usual) (vt.getD Variable.vt.usual)
          (timeout.getD Variable.timeout.usual))) := by
  have htimeout : ∀ timeout : Option Int,
      (timeout.map fun n => Duration.ofMilliseconds n.toNat).getD default.acquireTimeout =
        .ofMilliseconds (timeout.getD Variable.timeout.usual).toNat := by
    intro timeout
    cases timeout <;> rfl
  unfold gather
  simp only [htimeout]
  rfl

/-- Settings are gathered when every variable can be read. -/
theorem gather_eq_ok_iff :
    gather lookup = .ok c ↔
      ∃ port poolSize vt timeout, Counts lookup .port port ∧ Counts lookup .poolSize poolSize ∧
        Counts lookup .vt vt ∧ Counts lookup .timeout timeout ∧
          assembled lookup port poolSize vt timeout = c := by
  simp only [gather_eq, exceptBind_eq_ok_iff, number_eq_ok_iff, Except.ok.injEq]
  constructor
  · rintro ⟨port, hport, poolSize, hpool, vt, hvt, timeout, htimeout, h⟩
    exact ⟨_, _, _, _, ⟨port, hport, rfl⟩, ⟨poolSize, hpool, rfl⟩, ⟨vt, hvt, rfl⟩,
      ⟨timeout, htimeout, rfl⟩, h⟩
  · rintro ⟨_, _, _, _, ⟨port, hport, rfl⟩, ⟨poolSize, hpool, rfl⟩, ⟨vt, hvt, rfl⟩,
      ⟨timeout, htimeout, rfl⟩, h⟩
    exact ⟨port, hport, poolSize, hpool, vt, hvt, timeout, htimeout, h⟩

/-- An error about the first variable that cannot be read. -/
def FirstUnreadable (lookup : Lookup) (e : ConfigError) : Prop :=
  ∃ v s cause, IsFirst (Readable lookup) v Variable.all ∧ lookup v.name = some s ∧
    e = .unreadable v.name s cause

theorem firstUnreadable_of_error (before : List Variable) {after : List Variable}
    (hall : Variable.all = before ++ v :: after) (hbefore : ∀ u ∈ before, Readable lookup u)
    (h : number lookup v = .error e) : FirstUnreadable lookup e := by
  obtain ⟨hnot, s, cause, hset, he⟩ := number_eq_error h
  exact ⟨v, s, cause, ⟨before, after, hall, hbefore, hnot⟩, hset, he⟩

/-- Gathering ends with the first variable that cannot be read. -/
theorem gather_eq_error (h : gather lookup = .error e) : FirstUnreadable lookup e := by
  simp only [gather_eq, exceptBind_eq_error_iff, number_eq_ok_iff] at h
  rcases h with h | ⟨port, hport, h | ⟨poolSize, hpool, h | ⟨vt, hvt, h | ⟨timeout, -, h⟩⟩⟩⟩
  · exact firstUnreadable_of_error [] rfl (by simp) h
  · exact firstUnreadable_of_error [.port] rfl (by simpa using ⟨port, hport⟩) h
  · refine firstUnreadable_of_error [.port, .poolSize] rfl ?_ h
    simpa using ⟨⟨port, hport⟩, poolSize, hpool⟩
  · refine firstUnreadable_of_error [.port, .poolSize, .vt] rfl ?_ h
    simpa using ⟨⟨port, hport⟩, ⟨poolSize, hpool⟩, vt, hvt⟩
  · cases h

/-! ## Judging the settings -/

/-- An error about the first number that is not let in, where every variable can be read. -/
structure FirstOutOfBounds (lookup : Lookup) (e : ConfigError) : Prop where
  readable : ∀ v, Readable lookup v
  first : ∃ v n, IsFirst (InBounds lookup) v Variable.judged ∧ Tells lookup v (some n) ∧
    n < v.least ∧ v.fault? n = some e

theorem ofMilliseconds_eq_zero_iff : Duration.ofMilliseconds n.toNat = .zero ↔ n < 1 := by
  simp only [Duration.ofMilliseconds, Duration.zero, Duration.mk.injEq]
  omega

/-- An empty pool is one of less than one connection. -/
theorem Counts.eq_zero_iff (h : Counts lookup .poolSize n) : n = 0 ↔ n < 1 := by
  have hlowest : 0 ≤ n := h.lowest_le
  omega

/-- Judging ends with the first number that is not let in. -/
theorem check_assembled_eq_error {port poolSize vt timeout : Int}
    (hreadable : ∀ v, Readable lookup v) (hpool : Counts lookup .poolSize poolSize)
    (hvt : Counts lookup .vt vt) (htimeout : Counts lookup .timeout timeout)
    (h : (assembled lookup port poolSize vt timeout).check = .error e) :
    FirstOutOfBounds lookup e := by
  have hfirst : ∀ {v n} (before : List Variable) {after}, Variable.judged = before ++ v :: after →
      (∀ u ∈ before, InBounds lookup u) → Counts lookup v n → n < v.least →
      v.fault? n = some e → FirstOutOfBounds lookup e := by
    intro v n before after hjudged hbefore hcounts hlt hfault
    exact ⟨hreadable, v, n, ⟨before, after, hjudged, hbefore, hcounts.not_inBounds hlt⟩,
      hcounts.tells hlt, hlt, hfault⟩
  simp only [check, assembled, ofMilliseconds_eq_zero_iff, hpool.eq_zero_iff] at h
  by_cases hempty : poolSize < 1
  · rw [if_pos hempty] at h
    exact hfirst [] rfl (by simp) hpool hempty (congrArg some (Except.error.inj h))
  · have hpoolIn : InBounds lookup .poolSize :=
      inBounds_iff.2 ⟨poolSize, hpool, Int.not_lt.1 hempty⟩
    rw [if_neg hempty] at h
    by_cases hnegative : vt < 0
    · rw [if_pos hnegative] at h
      exact hfirst [.poolSize] rfl (by simpa using hpoolIn) hvt hnegative
        (congrArg some (Except.error.inj h))
    · have hvtIn : InBounds lookup .vt :=
        inBounds_iff.2 ⟨vt, hvt, Int.not_lt.1 hnegative⟩
      rw [if_neg hnegative] at h
      by_cases hzero : timeout < 1
      · rw [if_pos hzero] at h
        exact hfirst [.poolSize, .vt] rfl (by simpa using ⟨hpoolIn, hvtIn⟩) htimeout hzero
          (congrArg some (Except.error.inj h))
      · rw [if_neg hzero] at h
        cases h

/-! ## Settings that are read -/

/-- The settings that the variables come to, where all numbers are let in. -/
structure Accepts (lookup : Lookup) (c : Config) : Prop where
  port : Counts lookup .port c.port
  poolSize : Counts lookup .poolSize c.poolSize ∧ 1 ≤ c.poolSize
  vt : Counts lookup .vt c.vt ∧ 0 ≤ c.vt
  acquireTimeout : ∃ n, Counts lookup .timeout n ∧ 1 ≤ n ∧
    c.acquireTimeout = .ofMilliseconds n.toNat
  host : c.host = (lookup "PGMQ_HOST").getD "localhost"
  database : c.database = (lookup "PGMQ_DATABASE").getD "postgres"
  username : c.username = (lookup "PGMQ_USER").getD "postgres"
  password : c.password = (lookup "PGMQ_PASSWORD").getD "postgres"
  /-- There is an address exactly when one is set that is not empty. -/
  url : ∀ url, c.url = some url ↔ lookup "DATABASE_URL" = some url ∧ url ≠ ""

theorem bind_nonEmpty_eq_some_iff {o : Option String} {url : String} :
    o.bind nonEmpty = some url ↔ o = some url ∧ url ≠ "" := by
  cases o with
  | none => simp
  | some s =>
      by_cases hempty : s = ""
      · subst hempty
        simp [nonEmpty]
      · simp only [Option.bind_some, nonEmpty, String.isEmpty_iff, hempty, if_false,
          Option.some_inj]
        exact ⟨fun h => ⟨h, h ▸ hempty⟩, And.left⟩

/-- The settings that are read are the ones that the variables come to. -/
theorem ofLookup_eq_ok_iff : ofLookup lookup = .ok c ↔ Accepts lookup c := by
  have hbind : ofLookup lookup = gather lookup >>= check := rfl
  rw [hbind, exceptBind_eq_ok_iff]
  constructor
  · rintro ⟨d, hgather, hcheck⟩
    obtain ⟨rfl, hpoolNe, hvtLe, hzero⟩ := check_eq_ok_iff.1 hcheck
    obtain ⟨port, poolSize, vt, timeout, hport, hpool, hvt, htimeout, rfl⟩ :=
      gather_eq_ok_iff.1 hgather
    constructor
    · exact hport
    · exact ⟨hpool, Int.not_lt.1 fun hlt => hpoolNe (hpool.eq_zero_iff.2 hlt)⟩
    · exact ⟨hvt, hvtLe⟩
    · exact ⟨timeout, htimeout,
        Int.not_lt.1 fun hlt => hzero (ofMilliseconds_eq_zero_iff.2 hlt), rfl⟩
    · rfl
    · rfl
    · rfl
    · rfl
    · exact fun url => bind_nonEmpty_eq_some_iff
  · rintro ⟨hport, ⟨hpool, hpoolLe⟩, ⟨hvt, hvtLe⟩, ⟨timeout, htimeout, htimeoutLe, hacquire⟩, hhost,
      hdatabase, husername, hpassword, hurl⟩
    have heq : assembled lookup c.port c.poolSize c.vt timeout = c := by
      have hurl' : c.url = (lookup "DATABASE_URL").bind nonEmpty := by
        apply Option.ext
        intro url
        rw [hurl, bind_nonEmpty_eq_some_iff]
      rw [assembled, ← hurl', ← hhost, ← hdatabase, ← husername, ← hpassword, ← hacquire]
    refine ⟨c, gather_eq_ok_iff.2 ⟨_, _, _, _, hport, hpool, hvt, htimeout, heq⟩,
      check_eq_ok_iff.2 ⟨rfl, ?_, hvtLe, ?_⟩⟩
    · exact fun hempty => absurd (hpool.eq_zero_iff.1 hempty) (Int.not_lt.2 hpoolLe)
    · rw [hacquire]
      exact fun hzero => absurd (ofMilliseconds_eq_zero_iff.1 hzero) (Int.not_lt.2 htimeoutLe)

/-- Settings are read when every variable is let in. -/
theorem exists_accepts_iff : (∃ c, Accepts lookup c) ↔ ∀ v, InBounds lookup v := by
  simp only [inBounds_iff]
  constructor
  · rintro ⟨c, h⟩ v
    cases v with
    | port => exact ⟨c.port, h.port, h.port.lowest_le⟩
    | poolSize => exact ⟨c.poolSize, h.poolSize⟩
    | vt => exact ⟨c.vt, h.vt⟩
    | timeout =>
        obtain ⟨n, hcounts, hle, -⟩ := h.acquireTimeout
        exact ⟨n, hcounts, hle⟩
  · intro h
    obtain ⟨port, hport, -⟩ := h .port
    obtain ⟨poolSize, hpool⟩ := h .poolSize
    obtain ⟨vt, hvt⟩ := h .vt
    obtain ⟨timeout, htimeout, hle⟩ := h .timeout
    exact ⟨assembled lookup port poolSize vt timeout, hport, hpool, hvt,
      ⟨timeout, htimeout, hle, rfl⟩, rfl, rfl, rfl, rfl, fun url => bind_nonEmpty_eq_some_iff⟩

/-- The error when there are none. -/
theorem ofLookup_eq_error (h : ofLookup lookup = .error e) :
    FirstUnreadable lookup e ∨ FirstOutOfBounds lookup e := by
  have hbind : ofLookup lookup = gather lookup >>= check := rfl
  rw [hbind, exceptBind_eq_error_iff] at h
  rcases h with hgather | ⟨d, hgather, hcheck⟩
  · exact .inl (gather_eq_error hgather)
  · obtain ⟨port, poolSize, vt, timeout, hport, hpool, hvt, htimeout, rfl⟩ :=
      gather_eq_ok_iff.1 hgather
    have hreadable : ∀ v, Readable lookup v := by
      intro v
      cases v with
      | port => exact ⟨_, hport.choose_spec.1⟩
      | poolSize => exact ⟨_, hpool.choose_spec.1⟩
      | vt => exact ⟨_, hvt.choose_spec.1⟩
      | timeout => exact ⟨_, htimeout.choose_spec.1⟩
    exact .inr (check_assembled_eq_error hreadable hpool hvt htimeout hcheck)

/-- When settings are read, which ones, and which error there is otherwise. -/
structure ReadExactly (lookup : Lookup) : Prop where
  /-- Settings are read exactly when every variable is let in. -/
  success : (∃ c, ofLookup lookup = .ok c) ↔ ∀ v, InBounds lookup v
  /-- They are the ones that the variables come to. -/
  settings : ∀ c, ofLookup lookup = .ok c ↔ Accepts lookup c
  /-- Otherwise the error is about the first variable that cannot be read, or, if there is none,
  about the first number that is not let in. -/
  failure : ∀ e, ofLookup lookup = .error e →
    FirstUnreadable lookup e ∨ FirstOutOfBounds lookup e

/-- Settings are read exactly as their variables tell. -/
theorem ofLookup_exact (lookup : Lookup) : ReadExactly lookup where
  success := by
    simp only [ofLookup_eq_ok_iff]
    exact exists_accepts_iff
  settings _ := ofLookup_eq_ok_iff
  failure _ := ofLookup_eq_error

/-- An empty pool counts for less than a visibility timeout that cannot be read. -/
example :
    ofLookup (fun name => if name = "PGMQ_POOL_SIZE" then some "0"
      else if name = "PGMQ_VT" then some "-" else none) =
      .error (.unreadable "PGMQ_VT" "-" .invalidDigit) := rfl

end Config
end MessageQueue
