import MessageQueue.Proofs.Store.Record

/-!
# Visibility of messages over whole runs

A reader learns with every message until when it is hidden.  What was last told about a live
message since its queue was created, or else the instant at which it was sent, decides for
every later instant whether reads and pops hand the message out, whatever else happened to the
store in between.

Main results:

- Theorem `visibleAsTold_of_history`: after every run the queues of the store hand out their
  messages as the calls of the run have told.
- Theorem `Lifetime.deliveries_apart`: between two deliveries in a row lies the timeout of
  the first.
-/

namespace MessageQueue

/-! ## Spans between instants -/

/-- Outside leap seconds, an instant not before a sum is at least the added seconds away. -/
theorem Time.Instant.le_nanosecondsSince {t u h : Time.Instant} {n : Int}
    (hsum : t.addSeconds? n = some h) (hle : h ≤ u) (ht : t.inLeapSecond = false)
    (hu : u.inLeapSecond = false) : n * 1000000000 ≤ u.nanosecondsSince t := by
  rw [addSeconds?_eq ht, ofParts?] at hsum
  have hnano : t.nano < 1000000000 := by simpa [inLeapSecond] using ht
  split at hsum
  · cases hsum
    rw [le_iff_not_lt, lt_iff] at hle
    simp only [nanosecondsSince, ht, hu, Bool.false_eq_true, and_false, if_false]
    simp only at hle
    omega
  · simp at hsum

namespace Store

open Time (Instant)

/-! ## What one read or pop hands out -/

namespace Queue

variable {q : Queue} {now : Instant} {id : Int} {m : StoredMessage}

/-- A read with room for all messages hands out a live one exactly when it is visible, and no
read hands out a hidden one. -/
theorem read_hands_out {vt limit : Int} {ms : List (Message Json)}
    (hread : (q.read now vt limit).1 = .ok ms) (hlive : q.live.get? id = some m) :
    ((q.live.size : Int) ≤ limit → (id ∈ ms.map Message.id ↔ m.visibleAt ≤ now)) ∧
      (now < m.visibleAt → id ∉ ms.map Message.id) := by
  rcases read_eq_ok_iff.1 (Prod.ext hread rfl) with ⟨t, -, -, hdelivery⟩
  have honly : id ∈ ms.map Message.id → m.visibleAt ≤ now := by
    intro hmem
    rcases List.mem_map.1 hmem with ⟨msg, hmsg, rfl⟩
    rw [← show (q.delivery now t limit.toNat).1 = ms from congrArg Prod.fst hdelivery] at hmsg
    rcases exists_of_mem_delivery hmsg with ⟨m', hlive', hvisible, -⟩
    rw [hlive, Option.some.injEq] at hlive'
    rw [hlive']
    exact hvisible
  refine ⟨fun hlimit => ⟨honly, fun hvisible => ?_⟩, fun hhidden hmem => ?_⟩
  · have hroom : q.live.size ≤ limit.toNat := by omega
    have hmem := mem_delivery_of_visible t hroom hlive hvisible
    rw [hdelivery] at hmem
    exact List.mem_map.2 ⟨_, hmem, rfl⟩
  · exact Instant.le_iff_not_lt.1 (honly hmem) hhidden

/-- A read answers when no live message is spent, if the instant until which it hides exists. -/
theorem exists_read_eq_ok {vt : Int} (ht : (now.addSeconds? vt).isSome)
    (h : ∀ id m, q.live.get? id = some m → ¬m.Spent) (limit : Int) :
    ∃ ms, (q.read now vt limit).1 = .ok ms := by
  rcases Option.isSome_iff_exists.1 ht with ⟨hidden, hhidden⟩
  have hcounts : q.Deliverable now limit.toNat := fun e he => h _ _ (live_of_mem_selected he).1
  exact ⟨_, congrArg Prod.fst (read_eq_delivery hhidden hcounts)⟩

/-- No pop hands out a hidden message. -/
theorem pop_spares_hidden (hlive : q.live.get? id = some m) (hhidden : now < m.visibleAt) :
    ∀ msg ∈ (q.pop now).1, msg.id ≠ id := by
  rw [pop_eq]
  cases hhead : (q.visible now).head? with
  | none => simp
  | some e =>
      rcases e with ⟨i, m'⟩
      rcases mem_visible_iff.1 (List.mem_of_mem_head? hhead) with ⟨hlive', hvisible⟩
      intro msg hmsg
      cases hmsg
      rintro rfl
      rw [StoredMessage.toMessage, hlive', Option.some.injEq] at hlive
      rw [← hlive] at hhidden
      exact Instant.le_iff_not_lt.1 hvisible hhidden

end Queue

/-! ## Deliveries in a row -/

/-- Between two deliveries of a message in a row, with no change of its visibility between them,
lies the timeout of the first. -/
theorem Lifetime.deliveries_apart {earlier between later : List Call} {first second : Call}
    {q : Queue} {given taken : Message Json}
    (h : Lifetime (earlier ++ first :: (between ++ second :: later)) q)
    (hgiven : given ∈ first.delivered) (hbetween : (record given.id between).hidden = [])
    (htaken : taken ∈ second.delivered ++ second.popped) (hid : taken.id = given.id) :
    ∃ name vt limit t, first.request = .read name vt limit ∧
      first.now.addSeconds? vt = some t ∧ t ≤ second.now := by
  rcases h.cut with ⟨q₀, q₁, -, hfirst, -⟩
  rcases hfirst.mem_delivered hgiven with
    ⟨name, vt, limit, t, m, hrequest, ht, -, -, hgiven', htold⟩
  refine ⟨name, vt, limit, t, hrequest, ht, ?_⟩
  -- the message that the first call gave out is the last one that told of its id
  have hhorizon : (record given.id (earlier ++ first :: between)).horizon = some t := by
    have hlast : (record given.id (earlier ++ first :: between)).hidden.getLast? = some given := by
      rw [← List.singleton_append, record_append, record_append, htold]
      simp [Record.append, hbetween]
    rw [Record.horizon_of_getLast? hlast, hgiven']
    rfl
  have hsplit : earlier ++ first :: (between ++ second :: later) =
      (earlier ++ first :: between) ++ second :: later := by simp
  rw [hsplit] at h
  rcases h.cut with ⟨q₂, q₃, hlife, hsecond, -⟩
  have htaken' : ∃ m', q₂.live.get? taken.id = some m' ∧ m'.visibleAt ≤ second.now := by
    rcases List.mem_append.1 htaken with hread | hpop
    · rcases hsecond.mem_delivered hread with ⟨-, -, -, -, m', -, -, hlive, hvisible, -, -⟩
      exact ⟨m', hlive, hvisible⟩
    · rcases hsecond.mem_popped hpop with ⟨m', hlive, hvisible, -⟩
      exact ⟨m', hlive, hvisible⟩
  rcases htaken' with ⟨m', hlive, hvisible⟩
  rw [hid] at hlive
  have hdescribed := (hlife.describes hlive).horizon
  rw [hhorizon, Option.some.injEq] at hdescribed
  rw [hdescribed]
  exact hvisible

/-! ## After a run -/

/-- A queue of a store hands out its messages as the calls of its incarnation have told. -/
structure VisibleAsTold (m : Memory) (name : QueueName) (q : Queue) (calls : List Call) :
    Prop where
  /-- The calls tell of every live message from when on it is visible. -/
  horizon : ∀ id, q.live.contains id = true → ∃ h, (record id calls).horizon = some h
  /-- The message handed out last under an id tells the same. -/
  told : ∀ id h last, (record id calls).horizon = some h →
    (record id calls).hidden.getLast? = some last →
      ∀ t, h ≤ t ↔ last.isInvisibleAt t = false
  /-- A read with room for all live messages returns one exactly from then on, and no read
  returns it before. -/
  read : ∀ id h, q.live.contains id = true → (record id calls).horizon = some h →
    ∀ t vt limit ms, (Memory.perform (.read name vt limit) (m.onlineAt t)).1 = .ok ms →
      ((q.live.size : Int) ≤ limit → (id ∈ ms.map Message.id ↔ h ≤ t)) ∧
        (t < h → id ∉ ms.map Message.id)
  /-- A read answers if the instant until which it would hide messages exists, as long as one more
  delivery of each can be counted in 32 bits. -/
  answers : (∀ id, (record id calls).delivered.length < 2147483647) →
    ∀ t vt limit, (t.addSeconds? vt).isSome →
      ∃ ms, (Memory.perform (.read name vt limit) (m.onlineAt t)).1 = .ok ms
  /-- No pop returns it before. -/
  pop : ∀ id h, q.live.contains id = true → (record id calls).horizon = some h →
    ∀ t, ∃ msg?, (Memory.perform (.pop name) (m.onlineAt t)).1 = .ok msg? ∧
      (t < h → ∀ msg ∈ msg?, msg.id ≠ id)
  /-- Two deliveries of a message in a row, with no change of its visibility between them, are at
  least the timeout of the first apart. -/
  apart : ∀ earlier first between second later,
    calls = earlier ++ first :: (between ++ second :: later) →
    ∀ given ∈ first.delivered, (record given.id between).hidden = [] →
      ∀ taken ∈ second.delivered ++ second.popped, taken.id = given.id →
        ∃ queue vt limit t, first.request = .read queue vt limit ∧
          first.now.addSeconds? vt = some t ∧ t ≤ second.now ∧
          (first.now.inLeapSecond = false → second.now.inLeapSecond = false →
            vt * 1000000000 ≤ second.now.nanosecondsSince first.now)
  /-- A message that was sent and neither removed nor archived is live. -/
  kept : ∀ id, (record id calls).sent ≠ [] → (record id calls).removed = 0 →
    (record id calls).archived = 0 → q.live.contains id = true

/-- After every run the queues of the store hand out their messages as the calls of the run
have told. -/
theorem visibleAsTold_of_history {start : Instant} {moves : List Move} {history : List Call}
    {m : Memory} {name : QueueName} {q : Queue}
    (hrun : (Memory.new start).history moves = some (history, m))
    (hq : m.queues.get? name.text = some q) :
    ∃ calls, incarnation name.text history = some calls ∧ VisibleAsTold m name q calls := by
  rcases Memory.exists_lifetime hrun hq with ⟨calls, hcalls, hlife⟩
  refine ⟨calls, hcalls, ?_⟩
  have hdescribed : ∀ id h, q.live.contains id = true → (record id calls).horizon = some h →
      ∃ stored, q.live.get? id = some stored ∧ stored.visibleAt = h := by
    intro id h hlive hhorizon
    rcases Option.isSome_iff_exists.1 hlive with ⟨stored, hstored⟩
    have htold := (hlife.describes hstored).horizon
    rw [hhorizon, Option.some.injEq] at htold
    exact ⟨stored, hstored, htold.symm⟩
  constructor
  · intro id hlive
    rcases Option.isSome_iff_exists.1 hlive with ⟨stored, hstored⟩
    exact ⟨stored.visibleAt, (hlife.describes hstored).horizon⟩
  · intro id h last hhorizon hlast t
    rw [Record.horizon_of_getLast? hlast, Option.some.injEq] at hhorizon
    rw [← hhorizon, Instant.le_iff_not_lt, ← Message.isInvisibleAt_iff, Bool.not_eq_true]
  · intro id h hlive hhorizon t vt limit ms hread
    rcases hdescribed id h hlive hhorizon with ⟨stored, hstored, rfl⟩
    rw [Memory.perform_onlineAt rfl hq] at hread
    exact Queue.read_hands_out hread hstored
  · intro hcounts t vt limit ht
    rw [Memory.perform_onlineAt rfl hq]
    refine Queue.exists_read_eq_ok ht (fun id stored hstored => ?_) limit
    have hcounted := (hlife.describes hstored).delivered
    have hbound := hcounts id
    rw [StoredMessage.Spent, hcounted]
    omega
  · intro id h hlive hhorizon t
    rcases hdescribed id h hlive hhorizon with ⟨stored, hstored, rfl⟩
    rw [Memory.perform_onlineAt rfl hq]
    exact ⟨(q.pop t).1, rfl, Queue.pop_spares_hidden hstored⟩
  · rintro earlier first between second later rfl given hgiven hbetween taken htaken hid
    rcases hlife.deliveries_apart hgiven hbetween htaken hid with
      ⟨queue, vt, limit, t, hrequest, ht, hle⟩
    exact ⟨queue, vt, limit, t, hrequest, ht, hle, Instant.le_nanosecondsSince ht hle⟩
  · intro id hsent hremoved harchived
    cases hlife.standing id with
    | unsent _ _ _ htold => simp [htold] at hsent
    | live stored _ hlive _ _ => simp [SortedMap.contains, hlive]
    | archived _ _ _ hends => omega
    | removed _ _ _ hends => omega

/-- The sample run leaves a queue that hands out its messages as told. -/
theorem visibleAsTold_sampleMoves :
    ∃ history m q, (Memory.new .epoch).history sampleMoves = some (history, m) ∧
      m.queues.get? jobs.text = some q ∧
      ∃ calls, incarnation jobs.text history = some calls ∧ VisibleAsTold m jobs q calls := by
  rcases exists_queue_sampleMoves with ⟨history, m, q, hrun, hq⟩
  exact ⟨history, m, q, hrun, hq, visibleAsTold_of_history hrun hq⟩

end Store
end MessageQueue
