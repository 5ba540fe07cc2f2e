import MessageQueue.Proofs.Store.Record

/-!
# Conservation of messages

No message of a queue is lost, doubled or made up.  The ids that a queue has given out since
it was created are those from one up to the next one to be given out, and each of them is in
one place: among the live messages, in the archive, or removed for good by one call.

Main results:

- Theorem `conserved_of_history`: after every run the queues of the store have conserved
  their messages.
-/

namespace MessageQueue
namespace Store

open Time (Instant)

/-- An id is in one place: it is live, archived or removed once. -/
def InOnePlace (q : Queue) (calls : List Call) (id : Int) : Prop :=
  (q.live.contains id = true ∧ q.archived.contains id = false ∧
      (record id calls).removed = 0) ∨
    (q.live.contains id = false ∧ q.archived.contains id = true ∧
      (record id calls).removed = 0) ∨
    (q.live.contains id = false ∧ q.archived.contains id = false ∧
      (record id calls).removed = 1)

/-- An id is in no place: it is neither live nor archived and was never removed. -/
def InNoPlace (q : Queue) (calls : List Call) (id : Int) : Prop :=
  q.live.contains id = false ∧ q.archived.contains id = false ∧ (record id calls).removed = 0

/-- A queue of a store has conserved the messages of its incarnation. -/
structure Conserved (m : Memory) (name : QueueName) (q : Queue) (calls : List Call) : Prop where
  /-- The sends have answered the ids from one on, one after the other. -/
  sent : ∃ n : Nat, q.nextId = n + 1 ∧
    (calls.flatMap Call.sent).map Sending.id = (List.range n).map fun k : Nat => (k : Int) + 1
  /-- Each of these ids is live, archived or removed once, and only one of the three. -/
  place : ∀ id, 1 ≤ id → id < q.nextId → InOnePlace q calls id
  /-- No other id is in any place. -/
  elsewhere : ∀ id, id < 1 ∨ q.nextId ≤ id → InNoPlace q calls id
  /-- A message can be deleted exactly when it is live. -/
  delete : ∀ t id,
    (Memory.perform (.delete name id) (m.onlineAt t)).1 = .ok (q.live.contains id)
  /-- A message can be archived exactly when it is live. -/
  archive : ∀ t id,
    (Memory.perform (.archive name id) (m.onlineAt t)).1 = .ok (q.live.contains id)
  /-- The visibility of a message can be changed exactly when it is live, as far as instants go. -/
  setVisibility : ∀ t id vt, (q.live.contains id = true → (t.addSeconds? vt).isSome) →
    ∃ msg?, (Memory.perform (.setVisibility name id vt) (m.onlineAt t)).1 = .ok msg? ∧
      msg?.isSome = q.live.contains id
  /-- The archived ids ascend strictly. -/
  ascending : (m.archivedIds name.text).Pairwise (· < ·)
  /-- They are the ids that were archived. -/
  archived : ∀ id, id ∈ m.archivedIds name.text ↔ id ∈ calls.flatMap Call.archived

/-- The archived ids of a queue are the keys of its archive. -/
theorem Memory.archivedIds_eq {m : Memory} {name : String} {q : Queue}
    (hq : m.queues.get? name = some q) : m.archivedIds name = q.archived.keys := by
  rw [archivedIds, hq]

namespace Standing

variable {id : Int} {calls : List Call} {q : Queue}

/-- An id that was given out is in one place. -/
theorem inOnePlace (h : Standing id calls q) (hfirst : 1 ≤ id) (hnext : id < q.nextId) :
    InOnePlace q calls id := by
  simp only [InOnePlace, SortedMap.contains]
  cases h with
  | unsent hid => omega
  | live m _ hlive harchived htold =>
      have hremoved : (record id calls).removed = 0 := by
        simp [Record.removed, htold.popped, htold.deleted]
      exact Or.inl ⟨by rw [hlive]; rfl, by rw [harchived]; rfl, hremoved⟩
  | archived _ hlive harchived hends =>
      exact Or.inr (Or.inl ⟨by rw [hlive]; rfl, harchived, hends.1⟩)
  | removed _ hlive harchived hends =>
      exact Or.inr (Or.inr ⟨by rw [hlive]; rfl, by rw [harchived]; rfl, hends.1⟩)

/-- An id that was not given out is in no place. -/
theorem inNoPlace (h : Standing id calls q) (hid : id < 1 ∨ q.nextId ≤ id) :
    InNoPlace q calls id := by
  simp only [InNoPlace, SortedMap.contains]
  cases h with
  | unsent _ hlive harchived htold =>
      exact ⟨by rw [hlive]; rfl, by rw [harchived]; rfl, by rw [htold]; rfl⟩
  | live _ hid' | archived hid' | removed hid' => omega

/-- An id is in the archive exactly when a call has archived it. -/
theorem archived_iff (h : Standing id calls q) :
    q.archived.contains id = true ↔ id ∈ calls.flatMap Call.archived := by
  have hcount : id ∈ calls.flatMap Call.archived ↔ 0 < (record id calls).archived :=
    List.count_pos_iff.symm
  rw [hcount, SortedMap.contains]
  cases h with
  | unsent _ _ harchived htold => simp [harchived, htold]
  | live _ _ _ harchived htold => simp [harchived, htold.archived]
  | archived _ _ harchived hends => simp [harchived, hends.2]
  | removed _ _ harchived hends => simp [harchived, hends.2]

end Standing

/-- After every run the queues of the store have conserved their messages. -/
theorem conserved_of_history {start : Instant} {moves : List Move} {history : List Call}
    {m : Memory} {name : QueueName} {q : Queue}
    (hrun : (Memory.new start).history moves = some (history, m))
    (hq : m.queues.get? name.text = some q) :
    ∃ calls, incarnation name.text history = some calls ∧ Conserved m name q calls := by
  rcases Memory.exists_lifetime hrun hq with ⟨calls, hcalls, hlife⟩
  refine ⟨calls, hcalls, ?_⟩
  constructor
  · rcases hlife.sent_ids with ⟨n, hids, hnext⟩
    exact ⟨n, hnext, hids⟩
  · intro id hfirst hnext
    exact (hlife.standing id).inOnePlace hfirst hnext
  · intro id hid
    exact (hlife.standing id).inNoPlace hid
  · intro t id
    rw [Memory.perform_onlineAt rfl hq, ← q.delete_eq id]
    rfl
  · intro t id
    rw [Memory.perform_onlineAt rfl hq, ← q.archive_eq id]
    rfl
  · intro t id vt ht
    rw [Memory.perform_onlineAt rfl hq]
    exact q.setVisibility_fst ht
  · rw [Memory.archivedIds_eq hq]
    exact q.archived.keys_pairwise
  · intro id
    rw [Memory.archivedIds_eq hq, ← SortedMap.contains_iff_mem_keys]
    exact (hlife.standing id).archived_iff

/-- The sample run leaves a queue that has conserved its messages. -/
theorem conserved_sampleMoves :
    ∃ history m q, (Memory.new .epoch).history sampleMoves = some (history, m) ∧
      m.queues.get? jobs.text = some q ∧
      ∃ calls, incarnation jobs.text history = some calls ∧ Conserved m jobs q calls := by
  rcases exists_queue_sampleMoves with ⟨history, m, q, hrun, hq⟩
  exact ⟨history, m, q, hrun, hq, conserved_of_history hrun hq⟩

end Store
end MessageQueue
