import MessageQueue.Proofs.Client.Acts
import MessageQueue.Proofs.Store.Record

/-!
# Leases of clients

Clients share a queue and act on it one at a time, in any order.  A message that a client has
read is its own until the instant it was told with the message: only then may others see it
again.  As long as clients delete, archive and hide only messages that they have such a lease
on, they never find them gone, and no two of them work on one message.

Main results:

- Theorem `Guarded.step`: one call keeps the leases on a message apart.
- Theorem `leases_safe`: the leases of clients are safe in every order of acts.
-/

namespace MessageQueue
namespace Client

open Time (Instant)
open Store

/-! ## Leases -/

namespace Act

/-- The message that a client must have a lease on before it acts. -/
def leased? : Act → Option Int
  | setVisibility id _ | delete id | archive id => some id
  | send _ | readBatch _ _ | pop => none

/-- Until when a client has a lease on a message after its act: until the instant told with the
message it last got by reading or hiding it, unless it has deleted or archived it. -/
def lease (id : Int) (before : Option Instant) :
    Act → Except Failure (List (Message Json)) → Option Instant
  | readBatch _ _, .ok got | setVisibility _ _, .ok got =>
    match (got.filter fun m => m.id = id).getLast? with
    | some m => some m.visibleAt
    | none => before
  | delete i, .ok _ | archive i, .ok _ => if i = id then none else before
  | _, _ => before

end Act

/-- A store that clients share, and until when each of them has leases on messages. -/
structure Shared (κ : Type) where
  world : World Memory
  leases : κ → Int → Option Instant

/-- An act of a client and what came of it. -/
structure Performed (κ : Type) where
  client : κ
  act : Act
  result : Except Failure (List (Message Json))

namespace Shared

variable {κ : Type}

/-- The instant on the clock of the store. -/
def now (s : Shared κ) : Instant := s.world.store.now

/-- Whether a client has a lease on a message that has not run out. -/
def Holds (s : Shared κ) (k : κ) (id : Int) : Prop :=
  ∃ t, s.leases k id = some t ∧ s.now < t

instance (s : Shared κ) (k : κ) (id : Int) : Decidable (s.Holds k id) :=
  decidable_of_iff ((s.leases k id).any (fun t => decide (s.now < t)) = true) (by
    simp [Holds, Option.any_eq_true])

/-- The clock moves to an instant. -/
def tick (s : Shared κ) (t : Instant) : Shared κ :=
  { s with world := { s.world with store := { s.world.store with now := t } } }

/-- A client with a default timeout acts on a queue. -/
def act [DecidableEq κ] (s : Shared κ) (defaults : κ → Int) (name : QueueName) (k : κ) (a : Act) :
    Except Failure (List (Message Json)) × Shared κ :=
  match a.run ⟨Memory.store, defaults k⟩ name.text s.world with
  | (result, world) =>
    (result, ⟨world, fun l id =>
      if l = k then a.lease id (s.leases k id) result else s.leases l id⟩)

end Shared

/-- Clients act on one queue in some order while the clock does not move back, each deleting,
archiving and hiding only messages that it has a lease on. -/
inductive Interleaving {κ : Type} [DecidableEq κ] (defaults : κ → Int) (name : QueueName)
    (start : Shared κ) : List (Performed κ) → Shared κ → Prop where
  | start : Interleaving defaults name start [] start
  | tick {acts : List (Performed κ)} {s : Shared κ}
      (before : Interleaving defaults name start acts s) (t : Instant) (h : s.now ≤ t) :
      Interleaving defaults name start acts (s.tick t)
  | act {acts : List (Performed κ)} {s : Shared κ}
      (before : Interleaving defaults name start acts s) (k : κ) (a : Act)
      (hleased : ∀ id, a.leased? = some id → s.Holds k id)
      (hends : (s.act defaults name k a).1 ≠ .error .overflow) :
      Interleaving defaults name start (acts ++ [⟨k, a, (s.act defaults name k a).1⟩])
        (s.act defaults name k a).2

/-! ## What calls do to leases -/

/-- Until when a lease on a message lasts after calls with a record. -/
def leaseAfter (r : Record) (before : Option Instant) : Option Instant :=
  if 0 < r.deleted + r.archived then none
  else
    match r.hidden.getLast? with
    | some m => some m.visibleAt
    | none => before

/-- The message that a request deletes, archives or hides. -/
def leasedBy? : Request → Option Int
  | .setVisibility _ id _ | .delete _ id | .archive _ id => some id
  | _ => none

/-- Giving a client what it has changes nothing. -/
theorem ite_own {κ β : Type} [DecidableEq κ] (k : κ) (f : κ → β) :
    (fun l => if l = k then f k else f l) = f := by
  funext l
  by_cases hl : l = k
  · rw [if_pos hl, hl]
  · rw [if_neg hl]

/-- The leases on a message: whoever has one that has not run out is alone with it, and the
message is hidden as long. -/
structure Guarded {κ : Type} (now : Instant) (message : Option StoredMessage)
    (lease : κ → Option Instant) : Prop where
  hidden : ∀ k t, lease k = some t → now < t → ∃ m, message = some m ∧ m.visibleAt = t
  alone : ∀ k l t u, lease k = some t → now < t → lease l = some u → now < u → k = l

namespace Guarded

variable {κ : Type} {now : Instant} {message : Option StoredMessage} {lease : κ → Option Instant}

/-- Leases run out as the clock moves on, and nothing else happens to them. -/
theorem tick (h : Guarded now message lease) {t : Instant} (ht : now ≤ t) :
    Guarded t message lease := by
  have hbefore : ∀ u, t < u → now < u := by
    intro u hu
    rw [Instant.le_iff_not_lt, Instant.lt_iff] at ht
    rw [Instant.lt_iff] at hu ⊢
    omega
  constructor
  · intro k u hk hu
    exact h.hidden k u hk (hbefore u hu)
  · intro k l u v hk hu hl hv
    exact h.alone k l u v hk (hbefore u hu) hl (hbefore v hv)

/-- A client may get a lease that lasts as long as the message is hidden when no one else has
one. -/
theorem renew [DecidableEq κ] {k : κ} {own : Option Instant}
    (hothers : ∀ l t, l ≠ k → lease l = some t → ¬ now < t)
    (hown : ∀ t, own = some t → now < t → ∃ m, message = some m ∧ m.visibleAt = t) :
    Guarded now message (fun l => if l = k then own else lease l) := by
  have honly : ∀ l t, (if l = k then own else lease l) = some t → now < t → l = k := by
    intro l t hl ht
    by_contra hne
    rw [if_neg hne] at hl
    exact hothers l t hne hl ht
  constructor
  · intro l t hl ht
    rw [if_pos (honly l t hl ht)] at hl
    exact hown t hl ht
  · intro l l' t u hl ht hl' hu
    rw [honly l t hl ht, honly l' u hl' hu]

/-- No one has a lease on a message that is visible, or not there. -/
theorem no_lease (h : Guarded now message lease) (hvisible : ∀ m ∈ message, m.visibleAt ≤ now)
    (l : κ) (t : Instant) (hl : lease l = some t) : ¬ now < t := by
  intro ht
  rcases h.hidden l t hl ht with ⟨m, hm, rfl⟩
  exact Instant.le_iff_not_lt.1 (hvisible m hm) ht

/-- No one else has a lease on a message that a client has a lease on. -/
theorem no_other (h : Guarded now message lease) {k : κ} {t : Instant} (hk : lease k = some t)
    (ht : now < t) (l : κ) (u : Instant) (hne : l ≠ k) (hl : lease l = some u) : ¬ now < u := by
  intro hu
  exact hne (h.alone l k u t hl hu hk ht)

/-- One call keeps the leases on a message apart, if the client that makes it has a lease on what
it deletes, archives or hides. -/
theorem step [DecidableEq κ] {id : Int} {q q' : Queue} {c : Call} {k : κ}
    (h : Guarded c.now (q.live.get? id) lease) (hfate : Fate id q c q')
    (hfresh : ∀ m, q.live.get? id = some m → id < q.nextId)
    (hleased : leasedBy? c.request = some id → ∃ t, lease k = some t ∧ c.now < t) :
    Guarded c.now (q'.live.get? id)
      (fun l => if l = k then leaseAfter (record id [c]) (lease k) else lease l) := by
  cases hfate with
  | spared hlive _ _ htold =>
      have hsame : (fun l => if l = k then leaseAfter {} (lease k) else lease l) = lease :=
        ite_own k lease
      rw [hlive, htold, hsame]
      exact h
  | sent payload hid _ _ _ htold =>
      -- an id that is yet to be given out is not live
      have hnot : ∀ m ∈ q.live.get? id, m.visibleAt ≤ c.now := by
        intro m hm
        have := hfresh m hm
        omega
      rw [htold]
      exact renew (fun l t _ => h.no_lease hnot l t)
        (fun t hk ht => absurd ht (h.no_lease hnot k t hk))
  | delivered name vt limit m t _ _ hvisible hbefore hlive _ _ htold =>
      rw [hbefore] at h
      have hnone := h.no_lease (by simpa using hvisible)
      rw [htold]
      refine renew (fun l u _ => hnone l u) ?_
      intro u hown _
      cases hown
      exact ⟨m.afterRead t, hlive, rfl⟩
  | hidden name vt m t hrequest _ _ hlive _ _ htold =>
      rcases hleased (by rw [hrequest]; rfl) with ⟨u, hk, hu⟩
      rw [htold]
      refine renew (h.no_other hk hu) ?_
      intro u hown _
      cases hown
      exact ⟨m.hiddenUntil t, hlive, rfl⟩
  | popped name m _ hvisible hbefore _ _ _ htold =>
      rw [hbefore] at h
      have hnone := h.no_lease (by simpa using hvisible)
      rw [htold]
      exact renew (fun l t _ => hnone l t) (fun t hk ht => absurd ht (hnone k t hk))
  | deleted name m hrequest _ _ _ _ htold | archived name m hrequest _ _ _ _ htold =>
      rcases hleased (by rw [hrequest]; rfl) with ⟨u, hk, hu⟩
      rw [htold]
      refine renew (h.no_other hk hu) ?_
      intro t hown
      cases hown

end Guarded

/-! ## Acts on a store in memory -/

namespace Act

variable {a : Act} {d : Int} {name : QueueName} {r : Request}

/-- The request of an act is answered by a step of the queue. -/
theorem Asks.exists_queueStep (h : Asks d name a r) (now : Instant) :
    ∃ step, Memory.queueStep? now r = some (name, step) := by
  cases h <;> exact ⟨_, rfl⟩

/-- An act and its request are about the same message. -/
theorem Asks.leased?_eq (h : Asks d name a r) : a.leased? = leasedBy? r := by
  cases h <;> rfl

/-- What a client learns of its leases from an act is what the call to the store tells. -/
theorem Asks.lease_eq (h : Asks d name a r) (reply : r.Reply) (now : Instant) (id : Int)
    (before : Option Instant) :
    a.lease id before (conclude r (.ok reply)) =
      leaseAfter (record id [⟨⟨r, .ok reply⟩, now⟩]) before := by
  cases h with
  | send hpayload =>
      rw [record_send]
      rfl
  | readBatch hvt hlimit =>
      rw [record_read]
      rfl
  | pop =>
      cases reply with
      | none => rfl
      | some m =>
          rw [record_pop]
          rfl
  | setVisibility i hvt =>
      cases reply with
      | none => rfl
      | some m =>
          rw [record_setVisibility]
          by_cases hi : m.id = id <;> simp [conclude, lease, leaseAfter, hi]
  | delete i =>
      cases reply with
      | false => rfl
      | true =>
          rw [record_delete]
          by_cases hi : i = id <;> simp [conclude, lease, leaseAfter, hi]
  | archive i =>
      cases reply with
      | false => rfl
      | true =>
          rw [record_archive]
          by_cases hi : i = id <;> simp [conclude, lease, leaseAfter, hi]

/-- An act on a message that is live succeeds once its request is answered. -/
theorem Asks.conclude_ok (h : Asks d name a r) {now : Instant} {q : Queue} {reply : r.Reply}
    {step : Queue → Except Failure r.Reply × Queue}
    (hstep : Memory.queueStep? now r = some (name, step)) (hok : (step q).1 = .ok reply)
    (hlive : ∀ id, a.leased? = some id → ∃ m, q.live.get? id = some m) :
    ∃ got, conclude r (.ok reply) = .ok got := by
  cases h with
  | send hpayload => exact ⟨_, rfl⟩
  | readBatch hvt hlimit => exact ⟨_, rfl⟩
  | pop => exact ⟨_, rfl⟩
  | setVisibility id hvt =>
      rcases hlive id rfl with ⟨m, hm⟩
      cases hstep
      cases reply with
      | some row => exact ⟨_, rfl⟩
      | none =>
          rcases Queue.setVisibility_eq_ok_none_iff.1 (Prod.ext hok rfl) with ⟨hnone, -⟩
          simp [hm] at hnone
  | delete id =>
      rcases hlive id rfl with ⟨m, hm⟩
      cases hstep
      have hfound : (q.delete id).1 = reply := Except.ok.inj hok
      rw [← hfound, q.delete_eq id, SortedMap.contains, hm]
      exact ⟨_, rfl⟩
  | archive id =>
      rcases hlive id rfl with ⟨m, hm⟩
      cases hstep
      have hfound : (q.archive id).1 = reply := Except.ok.inj hok
      rw [← hfound, q.archive_eq id, SortedMap.contains, hm]
      exact ⟨_, rfl⟩

/-- A client that learns nothing from an act keeps its leases. -/
theorem lease_error (a : Act) (id : Int) (before : Option Instant) (e : Failure) :
    a.lease id before (.error e) = before := by
  cases a <;> rfl

/-- A client never refuses an act because a message is not there. -/
theorem request_ne_notFound (a : Act) (d : Int) (name : QueueName) (queue : String) (id : Int) :
    a.request d name ≠ .error (.messageNotFound queue id) := by
  cases a with
  | send payload =>
      cases hdatum : payload.toJson <;>
        simp [request, checkPayload, hdatum, Except.mapError, bind, Except.bind, pure, Except.pure]
  | readBatch vt limit =>
      by_cases hvt : vt.getD d < 0 <;> by_cases hlimit : limit < 1 <;>
        simp [request, checkVisibility, checkLimit, hvt, hlimit, bind, Except.bind, pure,
          Except.pure]
  | setVisibility i vt =>
      by_cases hvt : vt < 0 <;>
        simp [request, checkVisibility, hvt, bind, Except.bind, pure, Except.pure]
  | pop => simp [request, pure, Except.pure]
  | delete i => simp [request, pure, Except.pure]
  | archive i => simp [request, pure, Except.pure]

end Act

/-! ## Interleavings -/

section Interleavings

variable {κ : Type} [DecidableEq κ] {defaults : κ → Int} {name : QueueName} {s : Shared κ}
  {q : Queue} {k : κ} {a : Act}

/-- What holds of a shared store between the acts of its clients: it is in reach, the queue is
there, and the leases on its messages are apart. -/
structure Shared.Safe (s : Shared κ) (name : QueueName) (q : Queue) : Prop where
  online : s.world.store.offline = false
  present : s.world.store.queues.get? name.text = some q
  lived : ∃ calls, Lifetime calls q
  guarded : ∀ id, Guarded s.now (q.live.get? id) (fun k => s.leases k id)

/-- An act that succeeded, unless the client refused it, and in no case missed its message. -/
structure Performed.Found (defaults : κ → Int) (name : QueueName) (p : Performed κ) : Prop where
  passed : ∀ r, p.act.request (defaults p.client) name = .ok r → ∃ got, p.result = .ok got
  found : ∀ queue id, p.result ≠ .error (.reported (.messageNotFound queue id))

/-- The ids of live messages were given out. -/
theorem lt_nextId_of_lived (h : ∃ calls, Lifetime calls q) {id : Int} {m : StoredMessage}
    (hlive : q.live.get? id = some m) : id < q.nextId := by
  rcases h with ⟨calls, hlife⟩
  cases hlife.standing id with
  | live _ hid => exact hid.2
  | unsent _ hnot | archived _ hnot | removed _ hnot => simp [hlive] at hnot

namespace Shared.Safe

omit [DecidableEq κ] in
/-- The clock may move on. -/
theorem tick (h : s.Safe name q) {t : Instant} (ht : s.now ≤ t) : (s.tick t).Safe name q :=
  ⟨h.online, h.present, h.lived, fun id => (h.guarded id).tick ht⟩

/-- A refused act changes nothing. -/
theorem act_refused (h : s.Safe name q) {e : QueueError}
    (hrefused : a.request (defaults k) name = .error e) :
    (s.act defaults name k a).2.Safe name q ∧
      Performed.Found defaults name ⟨k, a, (s.act defaults name k a).1⟩ := by
  have hrun : a.run ⟨Memory.store, defaults k⟩ name.text s.world =
      (.error (.reported e), s.world) := Act.run_refused hrefused
  have hact : s.act defaults name k a = (.error (.reported e), s) := by
    have hsame : (fun l id => if l = k then a.lease id (s.leases k id) (.error (.reported e))
        else s.leases l id) = s.leases := by
      funext l id
      rw [Act.lease_error]
      exact congrFun (ite_own k fun l => s.leases l id) l
    rw [act, hrun]
    simp only [hsame]
  rw [hact]
  refine ⟨h, ?_, ?_⟩
  · intro r hr
    rw [hrefused] at hr
    cases hr
  · intro queue id heq
    cases heq
    exact a.request_ne_notFound (defaults k) name queue id hrefused

/-- An act that makes a request keeps the leases apart, and finds its message if the client has a
lease on it. -/
theorem act_of_request (h : s.Safe name q) {r : Request}
    (hrequest : a.request (defaults k) name = .ok r)
    (hleased : ∀ id, a.leased? = some id → s.Holds k id)
    (hends : (s.act defaults name k a).1 ≠ .error .overflow) :
    (∃ q', (s.act defaults name k a).2.Safe name q') ∧
      Performed.Found defaults name ⟨k, a, (s.act defaults name k a).1⟩ := by
  have hasks := Act.asks_of_request hrequest
  rcases hasks.exists_queueStep s.now with ⟨step, hstep⟩
  rcases Memory.perform_of_queueStep? hstep h.online h.present with
    ⟨hreply, hpresent, hnow, honline⟩
  rcases Act.run_of_request (c := ⟨Memory.store, defaults k⟩) (w := s.world) hrequest with
    ⟨hresult, hstore⟩
  have hresult' : (s.act defaults name k a).1 = conclude r (step q).1 := by
    rw [← hreply]
    exact hresult
  have hstore' : (s.act defaults name k a).2.world.store =
      (Memory.perform r s.world.store).2 := hstore
  cases hok : (step q).1 with
  | error f =>
      cases f with
      | reported e => exact absurd hok (Memory.queueStep_ne_reported hstep q e)
      | overflow =>
          rw [hresult', hok, conclude_error] at hends
          exact absurd rfl hends
  | ok reply =>
      have hcall := Memory.step_of_queueStep? hstep hok
      have hlive : ∀ id, a.leased? = some id → ∃ m, q.live.get? id = some m := by
        intro id hid
        rcases hleased id hid with ⟨t, hk, ht⟩
        rcases (h.guarded id).hidden k t hk ht with ⟨m, hm, -⟩
        exact ⟨m, hm⟩
      rcases hasks.conclude_ok hstep hok hlive with ⟨got, hgot⟩
      rw [hok, hgot] at hresult'
      refine ⟨⟨(step q).2, ?_, ?_, ?_, ?_⟩, ?_, ?_⟩
      · rw [hstore', honline]
      · rw [hstore', hpresent]
      · rcases h.lived with ⟨calls, hlife⟩
        exact ⟨_, hlife.step hcall⟩
      · intro id
        have hheld : leasedBy? r = some id → ∃ t, s.leases k id = some t ∧ s.now < t := by
          intro hid
          exact hleased id (hasks.leased?_eq.trans hid)
        have hguarded := (h.guarded id).step (k := k) (hcall.fate id)
          (fun m hm => lt_nextId_of_lived h.lived hm) hheld
        rw [← hasks.lease_eq reply s.now id, hgot, ← hresult'] at hguarded
        have hnow' : (s.act defaults name k a).2.now = s.now := by rw [now, hstore', hnow, now]
        rw [hnow']
        exact hguarded
      · intro r' _
        exact ⟨got, hresult'⟩
      · intro queue id hmissed
        rw [hresult'] at hmissed
        cases hmissed

end Shared.Safe

/-- Leases are safe after every interleaving that begins safely. -/
theorem Interleaving.safe {start : Shared κ} {acts : List (Performed κ)}
    (hrun : Interleaving defaults name start acts s) (hstart : ∃ q, start.Safe name q) :
    (∃ q, s.Safe name q) ∧ ∀ p ∈ acts, p.Found defaults name := by
  induction hrun with
  | start => exact ⟨hstart, by simp⟩
  | tick before t ht ih =>
      rcases ih with ⟨⟨q, hsafe⟩, hacts⟩
      exact ⟨⟨q, hsafe.tick ht⟩, hacts⟩
  | @act acts s before k a hleased hends ih =>
      rcases ih with ⟨⟨q, hsafe⟩, hacts⟩
      have hact : (∃ q', (s.act defaults name k a).2.Safe name q') ∧
          Performed.Found defaults name ⟨k, a, (s.act defaults name k a).1⟩ := by
        cases hrequest : a.request (defaults k) name with
        | error e =>
            rcases hsafe.act_refused hrequest with ⟨hsafe', hfound⟩
            exact ⟨⟨q, hsafe'⟩, hfound⟩
        | ok r => exact hsafe.act_of_request hrequest hleased hends
      rcases hact with ⟨hsafe', hfound⟩
      refine ⟨hsafe', ?_⟩
      intro p hp
      rcases List.mem_append.1 hp with hbefore | hlast
      · exact hacts p hbefore
      · rw [List.mem_singleton.1 hlast]
        exact hfound

omit [DecidableEq κ] in
/-- A store that was reached by a run is safe for clients that have no leases yet. -/
theorem safe_of_reachable (hreach : s.world.store.Reachable)
    (honline : s.world.store.offline = false)
    (hqueue : s.world.store.queues.contains name.text = true)
    (hleases : ∀ k id, s.leases k id = none) : ∃ q, s.Safe name q := by
  rcases Option.isSome_iff_exists.1 hqueue with ⟨q, hq⟩
  rcases hreach with ⟨start, moves, exchanges, hrun⟩
  rw [Memory.run_eq_history, Option.map_eq_some_iff] at hrun
  rcases hrun with ⟨⟨history, m⟩, hhistory, heq⟩
  cases heq
  rcases Memory.exists_lifetime hhistory hq with ⟨calls, -, hlife⟩
  refine ⟨q, honline, hq, ⟨calls, hlife⟩, ?_⟩
  intro id
  constructor
  · intro k t hk
    simp [hleases] at hk
  · intro k l t u hk
    simp [hleases] at hk

end Interleavings

/-! ## Two clients -/

/-- Two clients that share a queue of two messages. -/
def twoClients : Shared Bool where
  world := .ofStore (Memory.perform (.send jobs .null) (Memory.perform (.send jobs (.bool true))
    (Memory.perform (.create jobs) (.new .epoch)).2).2).2
  leases _ _ := none

/-- The queue of the two clients came about in a run. -/
theorem twoClients_reachable : twoClients.world.store.Reachable :=
  ⟨.epoch, [.request (.create jobs), .request (.send jobs (.bool true)),
    .request (.send jobs .null)], _, rfl⟩

/-- The two clients read a message each; one hides its message longer and the other deletes its
own and then finds the queue empty. -/
theorem exists_interleaving_twoClients :
    ∃ acts s, Interleaving (fun _ => 30) jobs twoClients acts s ∧ s.Holds true 1 := by
  have h₀ : Interleaving (fun _ => 30) jobs twoClients [] twoClients := .start
  have h₁ := h₀.act true (.readBatch (some 5) 1) (by rintro _ ⟨⟩) (by decide)
  have h₂ := h₁.act false (.readBatch none 5) (by rintro _ ⟨⟩) (by decide)
  have h₃ := h₂.tick ⟨2, 0, by decide, by decide, by decide⟩ (by decide)
  have h₄ := h₃.act true (.setVisibility 1 10) (by rintro _ ⟨⟩; decide) (by decide)
  have h₅ := h₄.act false (.delete 2) (by rintro _ ⟨⟩; decide) (by decide)
  have h₆ := h₅.act false .pop (by rintro _ ⟨⟩) (by decide)
  exact ⟨_, _, h₆, by decide⟩

/-! ## Safety of leases -/

/-- In every order of acts of clients that respect their leases, no client misses a message that
it has a lease on, and no two clients have a lease on one message. -/
theorem leases_safe {κ : Type} [DecidableEq κ] {defaults : κ → Int} {name : QueueName}
    {start s : Shared κ} {acts : List (Performed κ)}
    (hreach : start.world.store.Reachable) (honline : start.world.store.offline = false)
    (hqueue : start.world.store.queues.contains name.text = true)
    (hleases : ∀ k id, start.leases k id = none)
    (hrun : Interleaving defaults name start acts s) :
    (∀ p ∈ acts, p.Found defaults name) ∧
      ∀ k l id, s.Holds k id → s.Holds l id → k = l := by
  rcases hrun.safe (safe_of_reachable hreach honline hqueue hleases) with ⟨⟨q, hsafe⟩, hfound⟩
  refine ⟨hfound, ?_⟩
  rintro k l id ⟨t, hk, ht⟩ ⟨u, hl, hu⟩
  exact (hsafe.guarded id).alone k l t u hk ht hl hu

/-- The leases of the two clients are safe. -/
theorem leases_safe_twoClients :
    ∃ acts s, Interleaving (fun _ => 30) jobs twoClients acts s ∧ s.Holds true 1 ∧
      (∀ p ∈ acts, p.Found (fun _ => 30) jobs) ∧
      ∀ k l id, s.Holds k id → s.Holds l id → k = l := by
  rcases exists_interleaving_twoClients with ⟨acts, s, hrun, hholds⟩
  exact ⟨acts, s, hrun, hholds,
    leases_safe twoClients_reachable rfl (by decide) (fun _ _ => rfl) hrun⟩

end Client
end MessageQueue
