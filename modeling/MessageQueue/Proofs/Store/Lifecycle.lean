import Mathlib.Data.List.Nodup
import MessageQueue.Proofs.Store.Separation
import MessageQueue.Text.Octets

/-!
# Lifecycle of queues

A queue stands from the call that creates it to the first call after it that drops it.  The
standing queues are what a listing shows, each with the instant of its creation and all in the
order of the octets of their names, and they decide which requests succeed: only a name that does
not stand can be created, only a standing one dropped or used.  A queue that is created again
remembers nothing of the queues that had its name before.

Main results:

- Theorem `turns_perform`: what one call does to the queues that stand.
- Theorem `createdAt_iff_stands`: after every run the store holds exactly the queues that stand,
  each created at the instant that the calls tell.
- Theorem `mergeSort_listing`: a listing does not depend on the order in which queues are found.
- Theorem `lifecycle_of_history`: listings, creations, drops and all other requests go by the
  queues that stand.
-/

namespace MessageQueue

/-! ## The order of names -/

/-- The octets of a text. -/
def octets (s : String) : List UInt8 :=
  s.toList.flatMap Text.charOctets

/-- A character of a name is a single octet. -/
theorem charOctets_of_isNameChar {c : Char} (h : isNameChar c = true) :
    Text.charOctets c = [c.val.toUInt8] ∧ c.val.toNat < 128 := by
  have hsmall := val_le_of_isNameChar h
  exact ⟨String.utf8EncodeChar_eq_singleton (Char.utf8Size_eq_one_iff.2 hsmall),
    Nat.lt_succ_of_le hsmall⟩

/-- Characters of names are ordered as their octets are. -/
theorem flatMap_charOctets_lt {xs ys : List Char} (hxs : ∀ c ∈ xs, isNameChar c = true)
    (hys : ∀ c ∈ ys, isNameChar c = true) (h : xs < ys) :
    xs.flatMap Text.charOctets < ys.flatMap Text.charOctets := by
  induction xs generalizing ys with
  | nil =>
      cases ys with
      | nil => exact absurd h (List.lt_irrefl _)
      | cons d ys =>
          rw [List.flatMap_cons, (charOctets_of_isNameChar (hys d List.mem_cons_self)).1]
          exact List.nil_lt_cons _ _
  | cons c xs ih =>
      cases ys with
      | nil => exact absurd h (List.not_lt_nil _)
      | cons d ys =>
          rcases charOctets_of_isNameChar (hxs c List.mem_cons_self) with ⟨hc, hcsmall⟩
          rcases charOctets_of_isNameChar (hys d List.mem_cons_self) with ⟨hd, hdsmall⟩
          rw [List.flatMap_cons, List.flatMap_cons, hc, hd, List.singleton_append,
            List.singleton_append, List.cons_lt_cons_iff]
          rcases List.cons_lt_cons_iff.1 h with hlt | ⟨rfl, hrest⟩
          · left
            have hlt : c.val.toNat < d.val.toNat := hlt
            rw [UInt8.lt_iff_toNat_lt, UInt32.toNat_toUInt8, UInt32.toNat_toUInt8]
            omega
          · right
            exact ⟨rfl, ih (fun e he => hxs e (List.mem_cons_of_mem _ he))
              (fun e he => hys e (List.mem_cons_of_mem _ he)) hrest⟩

/-- Names are ordered as their octets are. -/
theorem QueueName.octets_lt {a b : QueueName} (h : a.text < b.text) :
    octets a.text < octets b.text :=
  flatMap_charOctets_lt (accepts_iff.1 a.accepted).2.2 (accepts_iff.1 b.accepted).2.2
    (String.lt_iff.1 h)

/-- The queue that a request needs to be there. -/
def Request.needs? : Request → Option QueueName
  | send queue _ | read queue _ _ | pop queue | setVisibility queue _ _ | delete queue _
  | archive queue _ | metrics queue => some queue
  | create _ | createPartitioned _ _ _ | drop _ | list => none

namespace Store

open Time (Instant)

/-! ## Standing queues -/

/-- A queue stands since an instant: a call created it then, and no call has dropped it since. -/
def Stands (n : String) (t : Instant) (history : List Call) : Prop :=
  ∃ before c after, history = before ++ c :: after ∧ c.creates n = true ∧ c.now = t ∧
    ∀ d ∈ after, d.drops n = false

/-- No queue stands before the first call. -/
theorem not_stands_nil (n : String) (t : Instant) : ¬ Stands n t [] := by
  rintro ⟨before, c, after, hcalls, -⟩
  simp at hcalls

/-- After one more call a queue stands that the call creates, or one that stood before and that
the call does not drop. -/
theorem stands_concat {n : String} {t : Instant} {calls : List Call} {c : Call} :
    Stands n t (calls ++ [c]) ↔
      (c.creates n = true ∧ c.now = t) ∨ (c.drops n = false ∧ Stands n t calls) := by
  constructor
  · rintro ⟨before, d, after, hcalls, hcreates, hnow, hafter⟩
    rcases List.eq_nil_or_concat after with rfl | ⟨middle, last, rfl⟩
    · have hlast := List.append_inj_right' hcalls rfl
      cases hlast
      exact Or.inl ⟨hcreates, hnow⟩
    · rw [List.concat_eq_append, ← List.cons_append, ← List.append_assoc] at hcalls
      rcases List.append_inj' hcalls rfl with ⟨hbefore, hlast⟩
      cases hlast
      refine Or.inr ⟨hafter c (by simp), before, d, middle, hbefore, hcreates, hnow, ?_⟩
      intro e he
      exact hafter e (by simp [he])
  · rintro (⟨hcreates, hnow⟩ | ⟨hdrops, before, d, after, rfl, hcreates, hnow, hafter⟩)
    · exact ⟨calls, c, [], rfl, hcreates, hnow, by simp⟩
    · refine ⟨before, d, after ++ [c], by simp, hcreates, hnow, ?_⟩
      intro e he
      rcases List.mem_append.1 he with he | he
      · exact hafter e he
      · rw [List.mem_singleton.1 he]
        exact hdrops

/-- A queue that stands has a name. -/
theorem Stands.exists_name {n : String} {t : Instant} {history : List Call}
    (h : Stands n t history) : ∃ name : QueueName, name.text = n := by
  rcases h with ⟨before, ⟨⟨r, reply⟩, now⟩, after, -, hcreates, -, -⟩
  cases r with
  | create name | createPartitioned name _ _ =>
      cases reply with
      | ok => exact ⟨name, by simpa [Call.creates] using hcreates⟩
      | error e => cases hcreates
  | _ => cases hcreates

/-! ## What one call does to the queues that stand -/

/-- No step changes the instant of the creation of its queue. -/
theorem Queue.Step.createdAt_eq {q q' : Queue} {c : Call} (h : q.Step c q') :
    q'.createdAt = q.createdAt := by
  cases h with
  | refused r e now => rfl
  | send name payload now => rfl
  | read name h =>
      rcases read_eq_ok_iff.1 h with ⟨t, -, -, hdeliver⟩
      rcases q.delivery_frame _ t _ with ⟨hcreated, -, -⟩
      rw [hdeliver] at hcreated
      exact hcreated
  | pop name now =>
      rw [pop_eq]
      split <;> rfl
  | @setVisibility _ _ _ msg? _ name h =>
      cases msg? with
      | none =>
          rcases setVisibility_eq_ok_none_iff.1 h with ⟨-, rfl⟩
          rfl
      | some msg =>
          rcases setVisibility_eq_ok_some_iff.1 h with ⟨m, t, -, -, -, rfl⟩
          rfl
  | delete name id now =>
      unfold Queue.delete
      split <;> rfl
  | archive name id now =>
      unfold Queue.archive
      split <;> rfl
  | metrics name now => rfl

/-- What a call does to the standing of a queue: it stands from now on if the call creates it, and
then it did not before; it stands no longer if the call drops it; and nothing changes otherwise. -/
structure Turns (n : String) (before after : SortedMap String Queue) (c : Call) : Prop where
  created : (after.get? n).map Queue.createdAt =
    if c.creates n then some c.now
    else if c.drops n then none
    else (before.get? n).map Queue.createdAt
  fresh : c.creates n = true → before.get? n = none

namespace Memory

variable {queues : SortedMap String Queue} {now : Instant}

/-- A call that neither creates nor drops a queue and keeps the instant of its creation changes
nothing about its standing. -/
theorem turns_of_kept {n : String} {after : SortedMap String Queue} {c : Call}
    (hcreates : c.creates n = false) (hdrops : c.drops n = false)
    (hkept : (after.get? n).map Queue.createdAt = (queues.get? n).map Queue.createdAt) :
    Turns n queues after c := by
  constructor
  · simp [hcreates, hdrops, hkept]
  · intro h
    simp [hcreates] at h

/-- A request of one queue changes nothing about which queues stand. -/
theorem turns_onQueue {r : Request} {name : QueueName}
    {step : Queue → Except Failure r.Reply × Queue} (hstep : queueStep? now r = some (name, step))
    {reply : Except QueueError r.Reply} (htold : told? (onQueue queues name step).1 = some reply)
    (n : String) : Turns n queues (onQueue queues name step).2 ⟨⟨r, reply⟩, now⟩ := by
  have hcreates : (⟨⟨r, reply⟩, now⟩ : Call).creates n = false := by
    cases r <;> cases hstep <;> rfl
  have hdrops : (⟨⟨r, reply⟩, now⟩ : Call).drops n = false := by
    cases r <;> cases hstep <;> rfl
  refine turns_of_kept hcreates hdrops ?_
  rw [get?_onQueue]
  by_cases hn : n = name.text
  · subst hn
    rw [if_pos rfl]
    rw [onQueue_fst] at htold
    cases hq : queues.get? name.text with
    | none => rfl
    | some q =>
        rw [hq] at htold
        cases reply with
        | error e =>
            exact absurd (told?_eq_some_error_iff.1 htold) (queueStep_ne_reported hstep q e)
        | ok reply =>
            have hcall := step_of_queueStep? hstep (told?_eq_some_ok_iff.1 htold)
            exact congrArg some hcall.createdAt_eq
  · rw [if_neg hn]

/-- The creation of a queue makes it stand, unless it stood before. -/
theorem turns_createQueue {name : QueueName} (call : Except QueueError Unit → Call)
    (hnow : (call (.ok ())).now = now)
    (hcreates : ∀ n, (call (.ok ())).creates n = (name.text == n))
    (hdrops : ∀ n, (call (.ok ())).drops n = false)
    (hrefused : ∀ e n, (call (.error e)).creates n = false ∧ (call (.error e)).drops n = false)
    {reply : Except QueueError Unit} (htold : told? (createQueue queues now name).1 = some reply)
    (n : String) : Turns n queues (createQueue queues now name).2 (call reply) := by
  rw [createQueue_fst] at htold
  cases hq : queues.get? name.text with
  | some q =>
      rw [hq] at htold
      cases htold
      refine turns_of_kept (hrefused _ n).1 (hrefused _ n).2 ?_
      rw [get?_createQueue, hq]
      by_cases hn : n = name.text
      · rw [if_pos hn, hn, hq]
        rfl
      · rw [if_neg hn]
  | none =>
      rw [hq] at htold
      cases htold
      constructor
      · rw [get?_createQueue, hq, hcreates, hdrops, hnow]
        by_cases hn : n = name.text
        · simp [hn, Queue.new]
        · have hne : ¬ name.text = n := fun h => hn h.symm
          simp [hn, hne]
      · intro h
        rw [hcreates, beq_iff_eq] at h
        rw [← h]
        exact hq

/-- The drop of a queue ends its standing, if it stood. -/
theorem turns_drop (name : QueueName) (n : String) :
    Turns n queues (queues.erase name.text)
      ⟨⟨.drop name, .ok (queues.contains name.text)⟩, now⟩ := by
  constructor
  · rw [SortedMap.get?_erase, SortedMap.contains]
    by_cases hn : n = name.text
    · subst hn
      cases hq : queues.get? name.text <;> simp [Call.creates, Call.drops]
    · have hne : ¬ name.text = n := fun h => hn h.symm
      cases hq : queues.get? name.text <;> simp [Call.creates, Call.drops, hn, hne]
  · intro h
    cases h

/-- What a request does to the queues that stand. -/
theorem turns_perform {m : Memory} {r : Request} {reply : Except QueueError r.Reply}
    (htold : told? (perform r m).1 = some reply) (n : String) :
    Turns n m.queues (perform r m).2.queues ⟨⟨r, reply⟩, m.now⟩ := by
  rcases m with ⟨queues, now, offline, count⟩
  cases offline with
  | true =>
      cases htold
      rcases Call.neither_of_error n r offlineError now with ⟨hcreates, hdrops⟩
      exact turns_of_kept hcreates hdrops rfl
  | false =>
      simp only [perform, Bool.false_eq_true, if_false] at htold ⊢
      cases hstep : queueStep? now r with
      | some p =>
          rcases p with ⟨name, step⟩
          rw [answer_eq_onQueue hstep] at htold ⊢
          exact turns_onQueue hstep htold n
      | none =>
          cases r with
          | create name =>
              exact turns_createQueue (fun reply => ⟨⟨.create name, reply⟩, now⟩) rfl
                (fun _ => rfl) (fun _ => rfl) (fun _ _ => ⟨rfl, rfl⟩) htold n
          | createPartitioned name interval retention =>
              exact turns_createQueue
                (fun reply => ⟨⟨.createPartitioned name interval retention, reply⟩, now⟩) rfl
                (fun _ => rfl) (fun _ => rfl) (fun _ _ => ⟨rfl, rfl⟩) htold n
          | drop name =>
              cases htold
              exact turns_drop name n
          | list =>
              cases htold
              exact turns_of_kept rfl rfl rfl
          | send | read | pop | setVisibility | delete | archive | metrics => cases hstep

/-- After every run the store holds exactly the queues that stand, each created at the instant
since which it stands. -/
theorem createdAt_iff_stands {start : Instant} {moves : List Move} {history : List Call}
    {m : Memory} (h : (new start).history moves = some (history, m)) (n : String) (t : Instant) :
    (m.queues.get? n).map Queue.createdAt = some t ↔ Stands n t history := by
  have hall : ∀ n t, (m.queues.get? n).map Queue.createdAt = some t ↔ Stands n t history := by
    refine history_induction (P := fun calls queues => ∀ n t,
      (queues.get? n).map Queue.createdAt = some t ↔ Stands n t calls) ?_ ?_ h
    · intro n t
      simp [not_stands_nil]
    · rintro calls m m' ⟨r, reply⟩ hstands hmove n t
      rcases move_request_iff.1 hmove with ⟨htold, rfl⟩
      have hturn := turns_perform htold n
      rw [stands_concat, hturn.created, ← hstands n t]
      by_cases hcreates : (⟨⟨r, reply⟩, m.now⟩ : Call).creates n = true
      · simp [hcreates, hturn.fresh hcreates]
      · by_cases hdrops : (⟨⟨r, reply⟩, m.now⟩ : Call).drops n = true
        · simp [hcreates, hdrops]
        · simp [hcreates, hdrops]
  exact hall n t

end Memory

/-! ## Listings -/

/-- A queue as a listing shows it. -/
def listingEntry (e : String × Queue) : QueueMeta := ⟨e.1, e.2.createdAt⟩

/-- Whether a queue comes before another or is the same, by the octets of the names. -/
def byName (a b : QueueMeta) : Bool := decide (octets a.queueName ≤ octets b.queueName)

/-- Queues whose names ascend come out the same in whatever order they are sorted from. -/
theorem mergeSort_listing {found listing : List QueueMeta} (hfound : found.Perm listing)
    (hascending : (listing.map QueueMeta.queueName).Pairwise fun a b => octets a < octets b) :
    found.mergeSort byName = listing := by
  have hstrict : listing.Pairwise fun a b => octets a.queueName < octets b.queueName :=
    (List.pairwise_map (R := fun a b => octets a < octets b)).1 hascending
  have hsorted : (found.mergeSort byName).Pairwise fun a b => byName a b = true := by
    apply List.pairwise_mergeSort
    · intro a b c hab hbc
      simp only [byName, decide_eq_true_eq] at hab hbc ⊢
      exact Std.le_trans hab hbc
    · intro a b
      simp only [byName, Bool.or_eq_true, decide_eq_true_eq]
      exact Std.le_total
  have hlisting : listing.Pairwise fun a b => byName a b = true := by
    refine hstrict.imp ?_
    intro a b hlt
    simp only [byName, decide_eq_true_eq]
    exact Std.le_of_lt hlt
  have hperm : (found.mergeSort byName).Perm listing :=
    (List.mergeSort_perm found byName).trans hfound
  -- names that are each not after the other are equal, and no name is listed twice
  have hdistinct : (listing.map fun e => octets e.queueName).Nodup := by
    rw [List.Nodup, List.pairwise_map]
    exact hstrict.imp fun hlt => Std.ne_of_lt hlt
  have hantisymm : ∀ a b, a ∈ found.mergeSort byName → b ∈ listing → byName a b = true →
      byName b a = true → a = b := by
    intro a b ha hb hab hba
    simp only [byName, decide_eq_true_eq] at hab hba
    exact List.inj_on_of_nodup_map hdistinct (hperm.mem_iff.1 ha) hb (Std.le_antisymm hab hba)
  exact hperm.eq_of_pairwise hantisymm hsorted hlisting

namespace Memory

variable {m : Memory}

/-- A listing shows a queue with an instant when the queue is there and was created then. -/
theorem mem_listingEntry_iff {n : String} {t : Instant} :
    (⟨n, t⟩ : QueueMeta) ∈ m.queues.entries.map listingEntry ↔
      (m.queues.get? n).map Queue.createdAt = some t := by
  rw [List.mem_map, Option.map_eq_some_iff]
  constructor
  · rintro ⟨⟨n', q⟩, hmem, heq⟩
    cases heq
    exact ⟨q, SortedMap.get?_eq_some_iff.2 hmem, rfl⟩
  · rintro ⟨q, hq, rfl⟩
    exact ⟨(n, q), SortedMap.get?_eq_some_iff.1 hq, rfl⟩

/-- The names in a listing are those of the queues that are there. -/
theorem mem_names_iff {n : String} :
    n ∈ (m.queues.entries.map listingEntry).map QueueMeta.queueName ↔
      m.queues.contains n = true := by
  rw [SortedMap.contains_iff_mem_keys, SortedMap.keys, List.map_map]
  rfl

/-- The names of the queues in a store that a run leads to ascend by their octets. -/
theorem names_ascend {start : Instant} {moves : List Move} {history : List Call}
    (h : (new start).history moves = some (history, m)) :
    ((m.queues.entries.map listingEntry).map QueueMeta.queueName).Pairwise
      fun a b => octets a < octets b := by
  have hkeys : (m.queues.entries.map listingEntry).map QueueMeta.queueName = m.queues.keys := by
    rw [List.map_map]
    rfl
  have hname : ∀ n ∈ m.queues.keys, ∃ name : QueueName, name.text = n := by
    intro n hn
    rcases Option.isSome_iff_exists.1 (SortedMap.contains_iff_mem_keys.2 hn) with ⟨q, hq⟩
    have hcreated : (m.queues.get? n).map Queue.createdAt = some q.createdAt := by
      rw [hq]
      rfl
    exact ((createdAt_iff_stands h n q.createdAt).1 hcreated).exists_name
  rw [hkeys]
  refine m.queues.keys_pairwise.imp_of_mem ?_
  intro a b ha hb hlt
  rcases hname a ha with ⟨name, rfl⟩
  rcases hname b hb with ⟨name', rfl⟩
  exact QueueName.octets_lt hlt

/-! ## Requests that need a queue -/

/-- A request that needs a queue is answered by a step of that queue. -/
theorem exists_queueStep_of_needs {r : Request} {name : QueueName} (h : r.needs? = some name)
    (now : Instant) : ∃ step, queueStep? now r = some (name, step) := by
  cases r <;> cases h <;> exact ⟨_, rfl⟩

/-- A request that needs a queue misses it exactly when it is not there, and reports nothing
else. -/
theorem perform_needs {r : Request} {name : QueueName} (h : r.needs? = some name) (t : Instant) :
    ((perform r (m.onlineAt t)).1 = .error (.reported (.queueNotFound name.text)) ↔
      m.queues.contains name.text = false) ∧
    (m.queues.contains name.text = true →
      ∀ e, (perform r (m.onlineAt t)).1 ≠ .error (.reported e)) := by
  rcases exists_queueStep_of_needs h t with ⟨step, hstep⟩
  have hreply : (perform r (m.onlineAt t)).1 = (answer m.queues t r).1 := rfl
  rw [hreply, answer_eq_onQueue hstep, onQueue_fst, SortedMap.contains]
  cases hq : m.queues.get? name.text with
  | none => simp
  | some q =>
      have hnone := queueStep_ne_reported hstep q
      simp [hnone]

/-! ## Queues that are created again -/

/-- A call that creates a queue finds the store in reach and no queue of the name, and leaves the
queue new. -/
theorem exists_new_of_creates {m' : Memory} {e : Exchange} {n : String}
    (hmove : m.move (.request e.request) = some ([e], m'))
    (hcreates : (⟨e, m.now⟩ : Call).creates n = true) :
    m.offline = false ∧ e.request.isAbout n = true ∧ m.queues.get? n = none ∧
      m'.queues.get? n = some (.new m.now) := by
  rcases e with ⟨r, reply⟩
  rcases move_request_iff.1 hmove with ⟨htold, rfl⟩
  have hnone : m.queues.get? n = none := (turns_perform htold n).fresh hcreates
  rcases m with ⟨queues, now, offline, count⟩
  cases r with
  | create name | createPartitioned name interval retention =>
      cases reply with
      | error e => cases hcreates
      | ok =>
          have hname : name.text = n := by simpa [Call.creates] using hcreates
          subst hname
          cases offline with
          | true => cases htold
          | false =>
              have hafter := get?_createQueue queues now name name.text
              simp only at hnone
              rw [if_pos rfl, hnone] at hafter
              exact ⟨rfl, by simp [Request.isAbout, Request.queue?], hnone, hafter⟩
  | _ => cases hcreates

/-! ## After a run -/

/-- What the calls of a run make of the queues of a store. -/
structure Lifecycle (m : Memory) (history : List Call) (listing : List QueueMeta) : Prop where
  /-- A listing succeeds, whatever the instant. -/
  list : ∀ t, (perform .list (m.onlineAt t)).1 = .ok listing
  /-- It shows exactly the queues that stand, each with the instant of its creation. -/
  shown : ∀ n t, (⟨n, t⟩ : QueueMeta) ∈ listing ↔ Stands n t history
  /-- Their names ascend strictly by their octets, so each is there once. -/
  ascending : (listing.map QueueMeta.queueName).Pairwise fun a b => octets a < octets b
  /-- In whatever order the queues are found, sorting them by name gives the listing. -/
  anyOrder : ∀ found : List (String × Queue), found.Perm m.queues.entries →
    (found.map listingEntry).mergeSort byName = listing
  /-- A queue can be created exactly when its name is not listed. -/
  create : ∀ name t, (perform (.create name) (m.onlineAt t)).1 =
    if name.text ∈ listing.map QueueMeta.queueName
    then .error (.reported (.queueExists name.text)) else .ok ()
  /-- So can a queue in partitions. -/
  createPartitioned : ∀ name interval retention t,
    (perform (.createPartitioned name interval retention) (m.onlineAt t)).1 =
      if name.text ∈ listing.map QueueMeta.queueName
      then .error (.reported (.queueExists name.text)) else .ok ()
  /-- Exactly the listed queues can be dropped. -/
  drop : ∀ name t, (perform (.drop name) (m.onlineAt t)).1 =
    .ok (decide (name.text ∈ listing.map QueueMeta.queueName))
  /-- All other requests of a queue miss it exactly when it is not listed, and report nothing
  when it is. -/
  needed : ∀ r name, Request.needs? r = some name → ∀ t,
    ((perform r (m.onlineAt t)).1 = .error (.reported (.queueNotFound name.text)) ↔
      name.text ∉ listing.map QueueMeta.queueName) ∧
    (name.text ∈ listing.map QueueMeta.queueName →
      ∀ e, (perform r (m.onlineAt t)).1 ≠ .error (.reported e))
  /-- A queue that is created now has no messages and gives the first id next, and the requests
  about it get the answers that they get in a store where nothing was before. -/
  renewed : ∀ (name : QueueName) (e : Exchange) m₁,
    m.move (.request e.request) = some ([e], m₁) → (⟨e, m.now⟩ : Call).creates name.text = true →
      (∃ q, m₁.queues.get? name.text = some q ∧ q.createdAt = m.now ∧ q.nextId = 1 ∧
        q.live = .empty ∧ q.archived = .empty) ∧
      ∃ fresh, (new m.now).move (.request e.request) = some ([e], fresh) ∧
        ∀ moves exchanges m₂, m₁.run moves = some (exchanges, m₂) →
          ∃ last, fresh.run (moves.filter (Move.concerns name.text)) =
              some (exchanges.filter (fun e => e.request.isAbout name.text), last) ∧
            last.queues.get? name.text = m₂.queues.get? name.text

/-- The creation of a queue goes by whether its name is taken. -/
theorem createQueue_onlineAt (m : Memory) (name : QueueName) (t : Instant) :
    (createQueue m.queues t name).1 =
      if name.text ∈ (m.queues.entries.map listingEntry).map QueueMeta.queueName
      then .error (.reported (.queueExists name.text)) else .ok () := by
  rw [createQueue_fst]
  simp only [mem_names_iff, SortedMap.contains]
  cases m.queues.get? name.text <;> rfl

/-- After every run listings, creations, drops and all other requests go by the queues that
stand. -/
theorem lifecycle_of_history {start : Instant} {moves : List Move} {history : List Call}
    {m : Memory} (hrun : (new start).history moves = some (history, m)) :
    ∃ listing, Lifecycle m history listing := by
  refine ⟨m.queues.entries.map listingEntry, ?_⟩
  constructor
  · intro t
    rfl
  · intro n t
    rw [mem_listingEntry_iff]
    exact createdAt_iff_stands hrun n t
  · exact names_ascend hrun
  · intro found hfound
    exact mergeSort_listing (hfound.map listingEntry) (names_ascend hrun)
  · intro name t
    exact createQueue_onlineAt m name t
  · intro name interval retention t
    exact createQueue_onlineAt m name t
  · intro name t
    have hreply : (perform (.drop name) (m.onlineAt t)).1 = .ok (m.queues.contains name.text) :=
      rfl
    rw [hreply]
    simp only [mem_names_iff, Bool.decide_eq_true]
  · intro r name hneeds t
    rw [mem_names_iff, Bool.not_eq_true]
    exact perform_needs hneeds t
  · intro name e m₁ hmove hcreates
    rcases exists_new_of_creates hmove hcreates with ⟨honline, habout, hnone, hnew⟩
    refine ⟨⟨_, hnew, rfl, rfl, rfl, rfl⟩, ?_⟩
    -- before the call the queue is in neither store
    have hagree : Agree name.text m (new m.now) := ⟨rfl, honline, hnone⟩
    have hconcerns : (Move.request e.request).concerns name.text = true := habout
    rcases hagree.move hconcerns hmove with ⟨fresh, hfresh, hafter⟩
    refine ⟨fresh, hfresh, ?_⟩
    intro moves exchanges m₂ hrun
    rcases hafter.run hrun with ⟨last, hlast, hend⟩
    exact ⟨last, hlast, hend.queue.symm⟩

/-- The sample run drops its first queue of jobs and leaves the second one and the mails. -/
theorem lifecycle_sampleMoves :
    ∃ history m, (new .epoch).history sampleMoves = some (history, m) ∧
      ∃ listing, Lifecycle m history listing := by
  rcases exists_queue_sampleMoves with ⟨history, m, q, hrun, -⟩
  exact ⟨history, m, hrun, lifecycle_of_history hrun⟩

end Memory
end Store
end MessageQueue
