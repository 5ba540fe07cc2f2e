import MessageQueue.Proofs.Store.Lifetime

/-!
# Separation of queues

A request about a queue reads that queue and the clock, and writes that queue alone.  Two stores
that agree on the queue, the clock and the way to the store therefore answer every request about
the queue alike, and still agree afterwards; requests about other queues leave the agreement as
it is.  So the users of a queue see of a run what they would see if no other queue had ever been
touched.

Main results:

- Theorem `exists_effect`: a request depends on the queue that it is about, and changes no other.
- Theorem `Agree.run`: stores that agree on a queue answer its requests alike over whole runs,
  with the requests about other queues left out of one of them.
- Theorem `undisturbed_of_run`: a run gives one queue the same answers and contents as the run
  without the requests about other queues.
-/

namespace MessageQueue

/-! ## Requests about one queue -/

/-- Whether a request is about the queue of a name. -/
def Request.isAbout (name : String) (r : Request) : Bool :=
  r.queue?.any fun queue => queue.text == name

/-- A request about a queue names it. -/
theorem Request.exists_queue_of_isAbout {name : String} {r : Request}
    (h : r.isAbout name = true) : ∃ queue, r.queue? = some queue ∧ queue.text = name := by
  rcases Option.any_eq_true_iff_get _ _ |>.1 h with ⟨hsome, heq⟩
  exact ⟨_, (Option.some_get hsome).symm, by simpa using heq⟩

namespace Store

open Time (Instant)

/-- Whether a move is left when the requests about other queues are taken out of a run. -/
def Move.concerns (name : String) : Move → Bool
  | .request r => r.isAbout name
  | .advance _ | .setOffline _ => true

namespace Memory

/-- A queue is created unless there is one of its name. -/
theorem createQueue_fst (queues : SortedMap String Queue) (now : Instant) (name : QueueName) :
    (createQueue queues now name).1 =
      match queues.get? name.text with
      | none => .ok ()
      | some _ => .error (.reported (.queueExists name.text)) := by
  rw [createQueue, SortedMap.contains]
  cases hq : queues.get? name.text <;> simp

/-- After the creation of a queue it is there, new unless it was there before, and no other queue
has changed. -/
theorem get?_createQueue (queues : SortedMap String Queue) (now : Instant) (name : QueueName)
    (n : String) :
    (createQueue queues now name).2.get? n =
      if n = name.text then some ((queues.get? name.text).getD (.new now)) else queues.get? n := by
  rw [createQueue, SortedMap.contains]
  by_cases hn : n = name.text
  · subst hn
    cases hq : queues.get? name.text <;> simp [SortedMap.get?_insert, hq]
  · cases hq : queues.get? name.text <;> simp [SortedMap.get?_insert, hn]

/-- A request about a queue is answered from that queue and the instant, and what it leaves of
the queue depends on the same; every other queue stays as it is. -/
theorem exists_effect {r : Request} {name : QueueName} (h : r.queue? = some name)
    (now : Instant) :
    ∃ effect : Option Queue → Except Failure r.Reply × Option Queue, ∀ queues n,
      (answer queues now r).1 = (effect (queues.get? name.text)).1 ∧
        (answer queues now r).2.get? n =
          if n = name.text then (effect (queues.get? name.text)).2 else queues.get? n := by
  cases hstep : queueStep? now r with
  | some p =>
      rcases p with ⟨name', step⟩
      have hname : name' = name :=
        Option.some.inj ((queue?_of_queueStep? hstep).symm.trans h)
      subst hname
      refine ⟨fun
        | none => (.error (.reported (.queueNotFound name'.text)), none)
        | some q => ((step q).1, some (step q).2), ?_⟩
      intro queues n
      rw [answer_eq_onQueue hstep, onQueue_fst, get?_onQueue]
      by_cases hn : n = name'.text
      · subst hn
        cases queues.get? name'.text <;> simp
      · cases queues.get? name'.text <;> simp [hn]
  | none =>
      cases r with
      | create name' | createPartitioned name' interval retention =>
          cases h
          refine ⟨fun q? =>
            (match q? with
              | none => .ok ()
              | some _ => .error (.reported (.queueExists name.text)),
              some (q?.getD (.new now))), ?_⟩
          intro queues n
          exact ⟨createQueue_fst queues now name, get?_createQueue queues now name n⟩
      | drop name' =>
          cases h
          refine ⟨fun q? => (.ok q?.isSome, none), ?_⟩
          intro queues n
          exact ⟨rfl, SortedMap.get?_erase queues name.text n⟩
      | list => cases h
      | send | read | pop | setVisibility | delete | archive | metrics => cases hstep

/-! ## Stores that agree on a queue -/

/-- Two stores agree on a queue: their clocks show the same instant, both are in reach or both are
not, and the queue is the same in both or in neither. -/
structure Agree (name : String) (a b : Memory) : Prop where
  now : a.now = b.now
  offline : a.offline = b.offline
  queue : a.queues.get? name = b.queues.get? name

namespace Agree

variable {name : String} {a b c : Memory}

theorem refl (name : String) (m : Memory) : Agree name m m := ⟨rfl, rfl, rfl⟩

theorem trans (hab : Agree name a b) (hbc : Agree name b c) : Agree name a c :=
  ⟨hab.now.trans hbc.now, hab.offline.trans hbc.offline, hab.queue.trans hbc.queue⟩

/-- Stores that agree on a queue answer the requests about it alike and go on agreeing. -/
theorem perform {r : Request} (h : Agree name a b) (habout : r.isAbout name = true) :
    (perform r a).1 = (perform r b).1 ∧ Agree name (perform r a).2 (perform r b).2 := by
  rcases Request.exists_queue_of_isAbout habout with ⟨queue, hqueue, rfl⟩
  rcases a with ⟨queues, now, offline, count⟩
  rcases b with ⟨queues', now', offline', count'⟩
  rcases h with ⟨hnow, hoffline, hsame⟩
  simp only at hnow hoffline hsame
  subst hnow hoffline
  cases offline with
  | true => exact ⟨rfl, rfl, rfl, hsame⟩
  | false =>
      rcases exists_effect hqueue now with ⟨effect, heffect⟩
      rcases heffect queues queue.text with ⟨hreply, hafter⟩
      rcases heffect queues' queue.text with ⟨hreply', hafter'⟩
      rw [hsame] at hreply hafter
      exact ⟨hreply.trans hreply'.symm, rfl, rfl, hafter.trans hafter'.symm⟩

end Agree

/-- A request about other queues, or none, leaves a store that agrees with the one before. -/
theorem agree_perform {name : String} {r : Request} (habout : r.isAbout name = false)
    (m : Memory) : Agree name (perform r m).2 m := by
  rcases m with ⟨queues, now, offline, count⟩
  cases offline with
  | true => exact ⟨rfl, rfl, rfl⟩
  | false =>
      refine ⟨rfl, rfl, ?_⟩
      cases hqueue : r.queue? with
      | none =>
          cases r with
          | list => rfl
          | create | createPartitioned | send | read | pop | setVisibility | delete | archive
          | drop | metrics => cases hqueue
      | some queue =>
          rcases exists_effect hqueue now with ⟨effect, heffect⟩
          have hne : name ≠ queue.text := by
            rintro rfl
            simp [Request.isAbout, hqueue] at habout
          have hkept := (heffect queues name).2
          rw [if_neg hne] at hkept
          exact hkept

/-! ## Runs -/

namespace Agree

variable {name : String} {a b a' : Memory}

/-- A move that concerns a queue leads to the same exchanges in stores that agree on it. -/
theorem move {x : Move} {exchanges : List Exchange} (h : Agree name a b)
    (hconcerns : x.concerns name = true) (hmove : a.move x = some (exchanges, a')) :
    ∃ b', b.move x = some (exchanges, b') ∧ Agree name a' b' := by
  cases x with
  | request r =>
      rcases h.perform hconcerns with ⟨hreply, hafter⟩
      simp only [Memory.move, Option.map_eq_some_iff] at hmove ⊢
      rcases hmove with ⟨reply, htold, heq⟩
      cases heq
      rw [hreply] at htold
      exact ⟨_, ⟨reply, htold, rfl⟩, hafter⟩
  | advance nanoseconds =>
      simp only [Memory.move, advance, Option.map_map, Option.map_eq_some_iff] at hmove ⊢
      rcases hmove with ⟨now, hnow, heq⟩
      cases heq
      rw [h.now] at hnow
      exact ⟨_, ⟨now, hnow, rfl⟩, rfl, h.offline, h.queue⟩
  | setOffline offline =>
      cases hmove
      exact ⟨_, rfl, h.now, rfl, h.queue⟩

/-- A move that does not concern a queue is a request about something else, and leaves a store
that agrees with the one before. -/
theorem move_other {x : Move} {exchanges : List Exchange}
    (hconcerns : x.concerns name = false) (hmove : a.move x = some (exchanges, a')) :
    exchanges.filter (fun e => e.request.isAbout name) = [] ∧ Agree name a' a := by
  cases x with
  | request r =>
      simp only [Memory.move, Option.map_eq_some_iff] at hmove
      rcases hmove with ⟨reply, -, heq⟩
      cases heq
      have habout : r.isAbout name = false := hconcerns
      exact ⟨by simp [habout], agree_perform habout a⟩
  | advance nanoseconds => cases hconcerns
  | setOffline offline => cases hconcerns

/-- All exchanges of a move that concerns a queue are about that queue. -/
theorem filter_exchanges {x : Move} {exchanges : List Exchange}
    (hconcerns : x.concerns name = true) (hmove : a.move x = some (exchanges, a')) :
    exchanges.filter (fun e => e.request.isAbout name) = exchanges := by
  rcases move_exchanges hmove with ⟨rfl, -⟩ | ⟨e, rfl, rfl⟩
  · rfl
  · have habout : e.request.isAbout name = true := hconcerns
    simp [habout]

/-- A run gives the requests about a queue the same answers in a store that agrees on the queue,
also when all requests about other queues are left out there. -/
theorem run {moves : List Move} {exchanges : List Exchange} (h : Agree name a b)
    (hrun : a.run moves = some (exchanges, a')) :
    ∃ b', b.run (moves.filter (Move.concerns name)) =
        some (exchanges.filter (fun e => e.request.isAbout name), b') ∧ Agree name a' b' := by
  -- the stores agree before every move, whichever moves are left out
  induction moves generalizing a b exchanges with
  | nil =>
      cases hrun
      exact ⟨b, rfl, h⟩
  | cons x rest ih =>
      simp only [Memory.run] at hrun
      split at hrun
      · cases hrun
      · rename_i first mid hmove
        rcases Option.map_eq_some_iff.1 hrun with ⟨⟨more, last⟩, hrest, heq⟩
        cases heq
        by_cases hconcerns : x.concerns name = true
        · rcases h.move hconcerns hmove with ⟨mid', hmove', hmid⟩
          rcases ih hmid hrest with ⟨b', hrest', hlast⟩
          refine ⟨b', ?_, hlast⟩
          rw [List.filter_cons_of_pos hconcerns, Memory.run, hmove', List.filter_append,
            filter_exchanges hconcerns hmove]
          simp [hrest']
        · rcases move_other (by simpa using hconcerns) hmove with ⟨hnone, hmid⟩
          rcases ih (hmid.trans h) hrest with ⟨b', hrest', hlast⟩
          refine ⟨b', ?_, hlast⟩
          rw [List.filter_cons_of_neg hconcerns, List.filter_append, hnone, List.nil_append]
          exact hrest'

end Agree

/-- Nothing that a run does to other queues is felt in a queue. -/
structure Undisturbed (start : Memory) (name : QueueName) (moves : List Move)
    (exchanges : List Exchange) (m : Memory) : Prop where
  /-- Without the requests about other queues and the listings the run goes through as well, gives
  the requests about the queue the same answers, and ends with the same queue. -/
  alone : ∃ m', start.run (moves.filter (Move.concerns name.text)) =
      some (exchanges.filter (fun e => e.request.isAbout name.text), m') ∧
    m'.queues.get? name.text = m.queues.get? name.text ∧
    m'.archivedIds name.text = m.archivedIds name.text ∧
    m'.now = m.now ∧ m'.offline = m.offline
  /-- So does every other run that differs from it only in such requests. -/
  others : ∀ moves' exchanges' m',
    moves'.filter (Move.concerns name.text) = moves.filter (Move.concerns name.text) →
      start.run moves' = some (exchanges', m') →
        exchanges'.filter (fun e => e.request.isAbout name.text) =
            exchanges.filter (fun e => e.request.isAbout name.text) ∧
          m'.queues.get? name.text = m.queues.get? name.text

/-- The requests about a queue get the same answers in a run, and the queue ends with the same
contents, whatever the run does to other queues. -/
theorem undisturbed_of_run {start m : Memory} {moves : List Move} {exchanges : List Exchange}
    (name : QueueName) (hrun : start.run moves = some (exchanges, m)) :
    Undisturbed start name moves exchanges m := by
  rcases (Agree.refl name.text start).run hrun with ⟨alone, halone, hagree⟩
  constructor
  · have harchived : alone.archivedIds name.text = m.archivedIds name.text := by
      rw [archivedIds, archivedIds, hagree.queue]
    exact ⟨alone, halone, hagree.queue.symm, harchived, hagree.now.symm, hagree.offline.symm⟩
  · intro moves' exchanges' m' hmoves hrun'
    rcases (Agree.refl name.text start).run hrun' with ⟨alone', halone', hagree'⟩
    -- both runs come down to the same one
    rw [hmoves, halone, Option.some.injEq, Prod.mk.injEq] at halone'
    rcases halone' with ⟨hexchanges, rfl⟩
    exact ⟨hexchanges.symm, hagree'.queue.trans hagree.queue.symm⟩

/-- The mails of the sample run are not felt among its jobs. -/
theorem undisturbed_sampleMoves :
    ∃ exchanges m, (new .epoch).run sampleMoves = some (exchanges, m) ∧
      Undisturbed (new .epoch) jobs sampleMoves exchanges m := by
  rcases exists_queue_sampleMoves with ⟨history, m, q, hhistory, -⟩
  have hrun : (new .epoch).run sampleMoves = some (history.map Call.toExchange, m) := by
    rw [run_eq_history, hhistory]
    rfl
  exact ⟨_, m, hrun, undisturbed_of_run jobs hrun⟩

end Memory
end Store
end MessageQueue
