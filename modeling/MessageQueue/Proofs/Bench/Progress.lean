import MessageQueue.Proofs.Bench.Consumer
import MessageQueue.Proofs.Bench.Story
import MessageQueue.Proofs.Client.Acts

/-!
# Progress of loops

A loop tells in its log how far it has come: how many messages were sent or deleted, or how many
reads in a row found nothing.  What it tells is held against a tally of what has happened by then,
which is kept along its story.  All counts are right but one: a producer tells its progress behind
the sending of a message and leaves that message out.

Main results:

- Theorem `Keeps.bind`: a tally is kept along sessions in a row.
- Theorems `keeps_runBench`, `keeps_produce` and `keeps_consume`: what the loops tell.
- Theorem `progress_told`: the counts of every loop, with those of a producer one behind.
- Theorem `not_progressTold_firstMessage`: the first message that a producer leaves out.
-/

namespace MessageQueue
namespace Bench

open Store
open Time (Duration)

/-! ## Tallies -/

/-- What has happened so far: the messages that were sent and that were deleted, the reads in a row
that found nothing, and how often the last of these was reported. -/
structure Tally where
  sent : Nat
  deleted : Nat
  emptyReads : Nat
  reports : Nat

/-- What is logged when reads in a row found nothing. -/
def quietMessage : String := "No messages for consecutive reads"

namespace Tally

/-- Before anything has happened. -/
def zero : Tally := ⟨0, 0, 0, 0⟩

/-- No read is empty at the end. -/
def rowEnded (t : Tally) : Tally := { t with emptyReads := 0, reports := 0 }

def oneSent (t : Tally) : Tally := { t.rowEnded with sent := t.sent + 1 }

def oneDeleted (t : Tally) : Tally := { t.rowEnded with deleted := t.deleted + 1 }

def oneEmpty (t : Tally) : Tally := { t with emptyReads := t.emptyReads + 1, reports := 0 }

/-- The tally after a call: any call but an empty read ends the row of empty reads. -/
def call (t : Tally) : Call → Tally
  | ⟨.send _ _, .ok _⟩ => t.oneSent
  | ⟨.delete _ _, .ok true⟩ => t.oneDeleted
  | ⟨.read _ _ _, .ok []⟩ => t.oneEmpty
  | _ => t.rowEnded

/-- The tally after an event. -/
def log (t : Tally) (e : Event) : Tally :=
  if e.message = quietMessage then { t with reports := t.reports + 1 } else t

/-- The tally after something more. -/
def step (t : Tally) : Happening → Tally
  | .call c => t.call c
  | .event e => t.log e

/-- The tally after a story. -/
def after (t : Tally) (story : List Happening) : Tally := story.foldl step t

/-- The last empty read has been reported once if it is the third in a row or a later one, and
otherwise not at all. -/
def Settled (t : Tally) : Prop := t.reports = if 3 ≤ t.emptyReads then 1 else 0

/-- As many reads in a row found nothing as 32 bits do not count any more. -/
def Full (t : Tally) : Prop := t.emptyReads = 4294967296

/-- The last call was no empty read. -/
structure Calm (t : Tally) : Prop where
  emptyReads : t.emptyReads = 0
  reports : t.reports = 0

/-- An event tells the counts of a tally, but that producers may be some messages behind. -/
structure Matches (lag : Nat) (t : Tally) (e : Event) : Prop where
  written : e.message = "Write progress" →
    e.fields.lookup "written" = some (.integer t.sent)
  produced : e.message = "Produce progress" →
    e.fields.lookup "sent" = some (.integer (t.sent - lag))
  finished : e.message = "Producer finished" →
    e.fields.lookup "sent" = some (.integer t.sent)
  quiet : e.message = "No messages for consecutive reads" →
    3 ≤ t.emptyReads ∧ e.fields.lookup "empty_reads" = some (.integer t.emptyReads)
  consumed : e.message = "Consumer finished" →
    e.fields.lookup "consumed" = some (.integer t.deleted)

end Tally

/-- Along a story every event tells the counts as they then are, and no call is made before the last
empty read is settled. -/
def Counted (lag : Nat) : Tally → List Happening → Prop
  | _, [] => True
  | t, .call c :: rest => t.Settled ∧ Counted lag (t.call c) rest
  | t, .event e :: rest => t.Matches lag e ∧ Counted lag (t.log e) rest

/-- The messages of all events that tell counts. -/
def countMessages : List String :=
  ["Write progress", "Produce progress", "Producer finished", quietMessage, "Consumer finished"]

section Tallies

variable {lag : Nat} {t : Tally}

/-- Other events tell no counts. -/
theorem Tally.matches_of_not_mem {e : Event} (h : e.message ∉ countMessages) :
    t.Matches lag e := by
  simp only [countMessages, quietMessage, List.mem_cons, List.not_mem_nil, or_false, not_or] at h
  obtain ⟨hwritten, hproduced, hfinished, hquiet, hconsumed⟩ := h
  exact ⟨fun h => absurd h hwritten, fun h => absurd h hproduced, fun h => absurd h hfinished,
    fun h => absurd h hquiet, fun h => absurd h hconsumed⟩

theorem Tally.log_of_ne {e : Event} (h : e.message ≠ quietMessage) : t.log e = t :=
  if_neg h

theorem Tally.log_of_not_mem {e : Event} (h : e.message ∉ countMessages) : t.log e = t := by
  apply log_of_ne
  intro hquiet
  rw [hquiet] at h
  exact h (by decide)

/-- Two empty reads in a row are not reported. -/
theorem Tally.settled_of_lt (hfew : t.emptyReads < 3) (hreports : t.reports = 0) : t.Settled := by
  rw [Settled, hreports, if_neg (Nat.not_le.2 hfew)]

/-- A later one is to be reported once. -/
theorem Tally.settled_log (hmany : 3 ≤ t.emptyReads) (hreports : t.reports = 0) (level : Level)
    (fields : List (String × FieldValue)) : (t.log ⟨level, quietMessage, fields⟩).Settled := by
  rw [log, if_pos rfl, Settled, if_pos hmany]
  exact congrArg (· + 1) hreports

theorem Tally.Calm.settled (h : t.Calm) : t.Settled :=
  settled_of_lt (by rw [h.emptyReads]; decide) h.reports

theorem Tally.calm_zero : zero.Calm := ⟨rfl, rfl⟩

theorem Tally.calm_rowEnded (t : Tally) : t.rowEnded.Calm := ⟨rfl, rfl⟩

theorem Tally.calm_oneSent (t : Tally) : t.oneSent.Calm := ⟨rfl, rfl⟩

theorem Tally.calm_oneDeleted (t : Tally) : t.oneDeleted.Calm := ⟨rfl, rfl⟩

/-- A call that fails counts for nothing. -/
theorem Tally.call_error (t : Tally) (r : Request) (f : Failure) :
    t.call ⟨r, .error f⟩ = t.rowEnded := by
  cases r <;> rfl

theorem Tally.call_read (t : Tally) (name : QueueName) (vt limit : Int)
    (rows : List (Message Json)) :
    t.call ⟨.read name vt limit, .ok rows⟩ = if rows = [] then t.oneEmpty else t.rowEnded := by
  cases rows <;> rfl

theorem counted_append {before after : List Happening} :
    Counted lag t (before ++ after) ↔
      Counted lag t before ∧ Counted lag (t.after before) after := by
  induction before generalizing t with
  | nil => simp [Counted, Tally.after]
  | cons happening rest ih =>
      cases happening <;> simp [Counted, ih, and_assoc, Tally.after, Tally.step]

end Tallies

/-! ## Sessions along which a tally is kept -/

variable {ε ε' α β : Type}

/-- A tally may be left with an error when it is settled, or with one that halts when it is full. -/
def Tally.MayEnd (t : Tally) (halt : ε → Prop) (e : ε) : Prop := t.Settled ∨ t.Full ∧ halt e

/-- A tally is kept along a session and its twin: they tell a counted story, and in the end the
tally is as a value promises, or may be left with an error. -/
structure Keeps (lag : Nat) (halt : ε → Prop) (t : Tally) (plain : Session Memory ε α)
    (recorded : Session (Memory × List Note) ε α) (post : α → Tally → Prop) : Prop where
  told : ∀ w, ∃ story, Tells plain recorded w story ∧ Counted lag t story ∧
    (∀ a, (plain w).1 = .ok a → post a (t.after story)) ∧
    ∀ e, (plain w).1 = .error e → (t.after story).MayEnd halt e

namespace Keeps

variable {lag : Nat} {halt : ε → Prop} {t : Tally} {plain : Session Memory ε α}
  {recorded : Session (Memory × List Note) ε α} {next : α → Session Memory ε β}
  {nextRecorded : α → Session (Memory × List Note) ε β} {post : α → Tally → Prop}
  {postNext : β → Tally → Prop}

/-- A tally is kept along sessions in a row. -/
theorem bind (h : Keeps lag halt t plain recorded post)
    (hnext : ∀ a t', post a t' → Keeps lag halt t' (next a) (nextRecorded a) postNext) :
    Keeps lag halt t (plain >>= next) (recorded >>= nextRecorded) postNext := by
  constructor
  intro w
  obtain ⟨story, htells, hcounted, hok, herror⟩ := h.told w
  rcases hrun : plain w with ⟨e | a, w'⟩
  · rw [hrun] at herror
    refine ⟨story, htells.bind_error hrun, hcounted, ?_, ?_⟩
    · intro b hb
      rw [Session.run_bind_of_error _ hrun] at hb
      cases hb
    · intro e' he
      rw [Session.run_bind_of_error _ hrun] at he
      cases he
      exact herror e rfl
  · rw [hrun] at hok
    obtain ⟨more, hmore, hcountedMore, hokMore, herrorMore⟩ :=
      (hnext a _ (hok a rfl)).told w'
    refine ⟨story ++ more, htells.bind_ok hrun hmore, counted_append.2 ⟨hcounted, hcountedMore⟩, ?_⟩
    rw [Session.run_bind_of_ok _ hrun, Tally.after, List.foldl_append]
    exact ⟨hokMore, herrorMore⟩

/-- Work in which no error halts may be part of work with other errors. -/
theorem mapError {halt : ε' → Prop} (f : ε → ε')
    (h : Keeps lag (fun _ => False) t plain recorded post) :
    Keeps lag halt t (plain.mapError f) (recorded.mapError f) post := by
  constructor
  intro w
  obtain ⟨story, htells, hcounted, hok, herror⟩ := h.told w
  refine ⟨story, htells.mapError f, hcounted, ?_, ?_⟩
  · intro a ha
    exact hok a (mapError_eq_ok_iff.1 ha)
  · intro e he
    rw [Session.run_mapError] at he
    cases hrun : (plain w).1 with
    | error e' => exact .inl ((herror e' hrun).resolve_right And.right)
    | ok a =>
        rw [hrun] at he
        cases he

/-- In silence the tally stays as it is; a session that may fail so needs one that may be left. -/
theorem of_silent (h : Silent plain recorded) (hpost : ∀ w a, (plain w).1 = .ok a → post a t)
    (hfail : ∀ w e, (plain w).1 = .error e → t.MayEnd halt e) :
    Keeps lag halt t plain recorded post := by
  constructor
  intro w
  exact ⟨[], .of_silent h w, trivial, hpost w, hfail w⟩

theorem pure {a : α} (h : post a t) :
    Keeps lag halt t (Pure.pure a : Session Memory ε α) (Pure.pure a) post := by
  apply of_silent fun _ => ⟨rfl, fun _ => rfl⟩
  · rintro w _ ⟨⟩
    exact h
  · exact fun _ _ => nofun

theorem throw {e : ε} (h : t.MayEnd halt e) :
    Keeps lag halt t (MonadExcept.throw e : Session Memory ε α) (MonadExcept.throw e) post := by
  apply of_silent fun _ => ⟨rfl, fun _ => rfl⟩
  · exact fun _ _ => nofun
  · rintro w _ ⟨⟩
    exact h

/-- The value of a session may be put into another. -/
theorem bind_pure (h : Keeps lag halt t plain recorded post) {f : α → β}
    (hpost : ∀ a t', post a t' → postNext (f a) t') :
    Keeps lag halt t (plain >>= fun a => Pure.pure (f a)) (recorded >>= fun a => Pure.pure (f a))
      postNext :=
  h.bind fun a t' ha => pure (hpost a t' ha)

/-- A silent session may stand before others. -/
theorem silent_then (h : Silent plain recorded)
    (hfail : ∀ w e, (plain w).1 = .error e → t.MayEnd halt e)
    (hnext : ∀ a, Keeps lag halt t (next a) (nextRecorded a) postNext) :
    Keeps lag halt t (plain >>= next) (recorded >>= nextRecorded) postNext := by
  have hsilent : Keeps lag halt t plain recorded fun _ t' => t' = t :=
    of_silent h (fun _ _ _ => rfl) hfail
  apply hsilent.bind
  rintro a _ rfl
  exact hnext a

/-- Before a settled tally is kept something may be required. -/
theorem ofExcept_then (h : t.Settled) (r : Except ε α)
    (hnext : ∀ a, Keeps lag halt t (next a) (nextRecorded a) postNext) :
    Keeps lag halt t (Session.ofExcept r >>= next) (Session.ofExcept r >>= nextRecorded) postNext :=
  silent_then (fun _ => ⟨rfl, fun _ => rfl⟩) (fun _ _ _ => .inl h) hnext

/-- One more empty read is counted unless the tally has become full by it. -/
theorem oneMore_then {empties : Nat} {f : Nat → Loop Memory α}
    {g : Nat → Loop (Memory × List Note) α} (ht : t.emptyReads = empties + 1)
    (hempties : empties ≤ 4294967295)
    (hnext : empties < 4294967295 →
      Keeps lag (· = .failed .overflow) t (f (empties + 1)) (g (empties + 1)) post) :
    Keeps lag (· = .failed .overflow) t (oneMore empties >>= f) (oneMore empties >>= g) post := by
  by_cases hcount : empties < 4294967295
  · rw [oneMore_of_lt hcount, oneMore_of_lt hcount, pure_bind, pure_bind]
    exact hnext hcount
  · rw [oneMore_of_not_lt hcount, oneMore_of_not_lt hcount]
    have hfull : t.Full := ht.trans (by omega)
    have hhalt : Keeps lag (· = .failed .overflow) t
        (MonadExcept.throw (.failed .overflow) : Loop Memory Nat)
        (MonadExcept.throw (.failed .overflow)) fun _ _ => False := throw (.inr ⟨hfull, rfl⟩)
    exact hhalt.bind fun _ _ hfalse => hfalse.elim

theorem fail {halt : Failure → Prop} (h : t.Settled) (e : QueueError)
    {post : α → Tally → Prop} :
    Keeps lag halt t (Client.fail e : Session Memory Failure α) (Client.fail e) post := by
  apply of_silent fun _ => ⟨rfl, fun _ => rfl⟩
  · exact fun _ _ => nofun
  · exact fun _ _ _ => .inl h

/-- A call is counted. -/
theorem store {halt : Failure → Prop} (h : t.Settled) (r : Request) :
    Keeps lag halt t (Memory.store r) (recordedStore r)
      fun reply t' => t' = t.call ⟨r, .ok reply⟩ := by
  constructor
  intro w
  refine ⟨_, .store r w, ⟨h, trivial⟩, ?_, ?_⟩
  · intro reply hreply
    exact congrArg (fun x => t.call ⟨r, x⟩) hreply
  · intro f hf
    have hafter : t.after [.call ⟨r, (Memory.perform r w.store).1⟩] = t.rowEnded :=
      (congrArg (fun x => t.call ⟨r, x⟩) hf).trans (t.call_error r f)
    rw [hafter]
    exact .inl t.calm_rowEnded.settled

/-- An event that tells the counts may be logged. -/
theorem emit {e : Event} {post : Unit → Tally → Prop} (h : t.Matches lag e)
    (hpost : post () (t.log e)) :
    Keeps lag halt t (Session.emit e : Session Memory ε Unit) (Session.emit e) post := by
  constructor
  intro w
  exact ⟨_, .emit e w, ⟨h, trivial⟩, fun _ _ => hpost, fun _ => nofun⟩

theorem emit_then {level : Level} {message : String} {fields : List (String × FieldValue)}
    {f : Unit → Session Memory ε α} {g : Unit → Session (Memory × List Note) ε α}
    (h : t.Matches lag ⟨level, message, fields⟩)
    (hnext : Keeps lag halt (t.log ⟨level, message, fields⟩) (f ()) (g ()) post) :
    Keeps lag halt t (Session.emit ⟨level, message, fields⟩ >>= f)
      (Session.emit ⟨level, message, fields⟩ >>= g) post := by
  have hemit : Keeps lag halt t (Session.emit ⟨level, message, fields⟩ : Session Memory ε Unit)
      (Session.emit ⟨level, message, fields⟩) fun _ t' => t' = t.log ⟨level, message, fields⟩ :=
    emit h rfl
  apply hemit.bind
  rintro a _ rfl
  exact hnext

/-- So may an event that tells no counts. -/
theorem other {level : Level} {message : String} {fields : List (String × FieldValue)}
    {post : Unit → Tally → Prop} (h : message ∉ countMessages) (hpost : post () t) :
    Keeps lag halt t (Session.emit ⟨level, message, fields⟩ : Session Memory ε Unit)
      (Session.emit ⟨level, message, fields⟩) post := by
  apply emit (Tally.matches_of_not_mem h)
  rwa [Tally.log_of_not_mem h]

theorem other_then {level : Level} {message : String} {fields : List (String × FieldValue)}
    {f : Unit → Session Memory ε α} {g : Unit → Session (Memory × List Note) ε α}
    (h : message ∉ countMessages) (hnext : Keeps lag halt t (f ()) (g ()) post) :
    Keeps lag halt t (Session.emit ⟨level, message, fields⟩ >>= f)
      (Session.emit ⟨level, message, fields⟩ >>= g) post := by
  apply emit_then (Tally.matches_of_not_mem h)
  rwa [Tally.log_of_not_mem h]

/-- What is logged under some condition has to tell the counts under this condition. -/
theorem event_cases {condition : Prop} [Decidable condition] {level : Level} {message : String}
    {fields : List (String × FieldValue)} {f : Unit → Session Memory ε α}
    {g : Unit → Session (Memory × List Note) ε α}
    (hlogged : condition → t.Matches lag ⟨level, message, fields⟩ ∧
      Keeps lag halt (t.log ⟨level, message, fields⟩) (f ()) (g ()) post)
    (hskipped : ¬condition → Keeps lag halt t (f ()) (g ()) post) :
    Keeps lag halt t (if condition then Session.emit ⟨level, message, fields⟩ >>= f else f ())
      (if condition then Session.emit ⟨level, message, fields⟩ >>= g else g ()) post := by
  split
  · rename_i h
    exact emit_then (hlogged h).1 (hlogged h).2
  · rename_i h
    exact hskipped h

/-- It makes no difference to the tally if it is about no empty read. -/
theorem after_event {condition : Prop} [Decidable condition] {level : Level} {message : String}
    {fields : List (String × FieldValue)} {f : Unit → Session Memory ε α}
    {g : Unit → Session (Memory × List Note) ε α} (h : t.Matches lag ⟨level, message, fields⟩)
    (hother : message ≠ quietMessage) (hnext : Keeps lag halt t (f ()) (g ()) post) :
    Keeps lag halt t (if condition then Session.emit ⟨level, message, fields⟩ >>= f else f ())
      (if condition then Session.emit ⟨level, message, fields⟩ >>= g else g ()) post :=
  event_cases (fun _ => ⟨h, by rwa [Tally.log_of_ne hother]⟩) fun _ => hnext

/-- A wait may stand before other sessions. -/
theorem wait_then {d : Duration} {f : Unit → Session Memory ε α}
    {g : Unit → Session (Memory × List Note) ε α} (hnext : Keeps lag halt t (f ()) (g ()) post) :
    Keeps lag halt t (Session.wait d >>= f) (Session.wait d >>= g) post :=
  silent_then (fun _ => ⟨rfl, fun _ => rfl⟩) (fun _ _ => nofun) fun _ => hnext

/-- It may also be left out. -/
theorem after_wait {condition : Prop} [Decidable condition] {d : Duration}
    {f : Unit → Session Memory ε α} {g : Unit → Session (Memory × List Note) ε α}
    (hnext : Keeps lag halt t (f ()) (g ()) post) :
    Keeps lag halt t (if condition then Session.wait d >>= f else f ())
      (if condition then Session.wait d >>= g else g ()) post := by
  split
  · exact wait_then hnext
  · exact hnext

/-- A look at the clock may stand before other sessions. -/
theorem elapsed_then {f : Nat → Session Memory ε α} {g : Nat → Session (Memory × List Note) ε α}
    (hnext : ∀ elapsed, Keeps lag halt t (f elapsed) (g elapsed) post) :
    Keeps lag halt t (Session.elapsed >>= f) (Session.elapsed >>= g) post :=
  silent_then (fun _ => ⟨rfl, fun _ => rfl⟩) (fun _ _ => nofun) hnext

/-- The time may be taken around a session. -/
theorem timed {halt : LoopFailure → Prop} {s : Loop Memory α} {r : Loop (Memory × List Note) α}
    (h : Keeps lag halt t s r post)
    {g : α → Duration → β} (hpost : ∀ x d t', post x t' → postNext (g x d) t') :
    Keeps lag halt t
      (clock >>= fun start => s >>= fun x =>
        clock >>= fun stop => Pure.pure (g x (between start stop)))
      (clock >>= fun start => r >>= fun x =>
        clock >>= fun stop => Pure.pure (g x (between start stop))) postNext := by
  have hclock : Silent (clock : Loop Memory Duration) clock := fun _ => ⟨rfl, fun _ => rfl⟩
  refine silent_then hclock (fun _ _ => nofun) fun start => h.bind fun x t' hx => ?_
  exact silent_then hclock (fun _ _ => nofun) fun stop => pure (hpost x _ t' hx)

end Keeps

/-! ## Operations -/

section Operations

variable {lag : Nat} {halt : LoopFailure → Prop} {t : Tally}

theorem keeps_sendOne (ht : t.Settled) (v : Int) (queue : String) :
    Keeps lag halt t (sendOne ⟨Memory.store, v⟩ queue) (sendOne ⟨recordedStore, v⟩ queue)
      fun _ t' => t' = t.oneSent := by
  refine .mapError _ (.ofExcept_then ht _ fun name => .ofExcept_then ht _ fun value => ?_)
  apply (Keeps.store ht _).bind
  rintro id _ rfl
  exact .other_then (by decide) (.pure rfl)

theorem keeps_timedSend (ht : t.Settled) (v : Int) (queue : String) :
    Keeps lag halt t (timedSend ⟨Memory.store, v⟩ queue) (timedSend ⟨recordedStore, v⟩ queue)
      fun _ t' => t' = t.oneSent :=
  (keeps_sendOne ht v queue).timed (g := fun id d => (⟨.write, d, id⟩ : Timing)) fun _ _ _ h => h

/-- A read that finds nothing is one more in a row. -/
theorem keeps_timedRead (ht : t.Settled) (v : Int) (queue : String) (vt : Int) :
    Keeps lag halt t (timedRead ⟨Memory.store, v⟩ queue vt) (timedRead ⟨recordedStore, v⟩ queue vt)
      fun timing? t' => t' = if timing? = none then t.oneEmpty else t.rowEnded := by
  have hread : Keeps lag (fun _ => False) t
      (Client.read ⟨Memory.store, v⟩ Message.anyPayload queue (some vt))
      (Client.read ⟨recordedStore, v⟩ Message.anyPayload queue (some vt))
      fun message? t' => t' = if message? = none then t.oneEmpty else t.rowEnded := by
    simp only [Client.read, Client.readBatch, bind_assoc, Client.decodeAll_any,
      Client.requireDecoded_ok, pure_bind]
    refine .ofExcept_then ht _ fun name => .ofExcept_then ht _ fun _ =>
      .ofExcept_then ht _ fun _ => ?_
    apply (Keeps.store ht _).bind
    rintro rows _ rfl
    refine .other_then (by decide) (.pure ?_)
    simp only [List.getLast?_eq_none_iff]
    exact t.call_read name vt _ rows
  refine (hread.mapError .failed).timed
    (g := fun message? d => message?.map fun m => (⟨.read, d, m.id⟩ : Timing)) ?_
  rintro message? d t' rfl
  simp

theorem keeps_timedArchive (ht : t.Settled) (v : Int) (queue : String) (id : Int) :
    Keeps lag halt t (timedArchive ⟨Memory.store, v⟩ queue id)
      (timedArchive ⟨recordedStore, v⟩ queue id) fun _ t' => t' = t.rowEnded := by
  have harchive : Keeps lag (fun _ => False) t (Client.archive ⟨Memory.store, v⟩ queue id)
      (Client.archive ⟨recordedStore, v⟩ queue id) fun _ t' => t' = t.rowEnded := by
    refine .ofExcept_then ht _ fun name => (Keeps.store ht _).bind ?_
    rintro found _ rfl
    have hcall : t.call ⟨.archive name id, .ok found⟩ = t.rowEnded := rfl
    rw [hcall]
    cases found with
    | false => exact .fail t.calm_rowEnded.settled _
    | true => exact .other (by decide) rfl
  refine (harchive.mapError .failed).timed (g := fun _ d => (⟨.archive, d, id⟩ : Timing)) ?_
  exact fun _ _ _ h => h

theorem keeps_timedDelete (ht : t.Settled) (v : Int) (queue : String) (id : Int) :
    Keeps lag halt t (timedDelete ⟨Memory.store, v⟩ queue id)
      (timedDelete ⟨recordedStore, v⟩ queue id) fun _ t' => t' = t.oneDeleted := by
  have hdelete : Keeps lag (fun _ => False) t (Client.delete ⟨Memory.store, v⟩ queue id)
      (Client.delete ⟨recordedStore, v⟩ queue id) fun _ t' => t' = t.oneDeleted := by
    refine .ofExcept_then ht _ fun name => (Keeps.store ht _).bind ?_
    rintro found _ rfl
    cases found with
    | false => exact .fail t.calm_rowEnded.settled _
    | true => exact .other (by decide) rfl
  refine (hdelete.mapError .failed).timed (g := fun _ d => (⟨.delete, d, id⟩ : Timing)) ?_
  exact fun _ _ _ h => h

end Operations

/-! ## Loops -/

section Loops

variable {lag : Nat} {halt : LoopFailure → Prop} {t : Tally}

/-- What is written so far is told behind a message. -/
theorem keeps_writeMessages (v : Int) (queue : String) (left : Nat) {written : Nat}
    (ht : t.Calm) (hsent : t.sent = written) :
    Keeps lag halt t (writeMessages ⟨Memory.store, v⟩ queue left written)
      (writeMessages ⟨recordedStore, v⟩ queue left written) fun _ t' => t'.Calm := by
  induction left generalizing t written with
  | zero => exact .pure ht
  | succ left ih =>
      unfold writeMessages
      apply (keeps_timedSend ht.settled v queue).bind
      rintro timing _ rfl
      have hsent' : t.oneSent.sent = written + 1 := congrArg (· + 1) hsent
      refine .after_event ?_ (by decide) ?_
      · constructor <;> simp [hsent']
      · exact (ih t.calm_oneSent hsent').bind_pure fun _ _ h => h

/-- A benchmark ends with its first empty read. -/
theorem keeps_readMessages (v : Int) (queue : String) (vt : Int) (total left reads : Nat)
    (ht : t.Calm) :
    Keeps lag halt t (readMessages ⟨Memory.store, v⟩ queue vt total left reads)
      (readMessages ⟨recordedStore, v⟩ queue vt total left reads) fun _ t' => t'.Calm := by
  induction left generalizing t reads with
  | zero => exact .pure ht
  | succ left ih =>
      unfold readMessages
      apply (keeps_timedRead ht.settled v queue vt).bind
      rintro timing? _ rfl
      cases timing? with
      | none =>
          -- the call before was no read, so that this one is the first of its row
          have hfirst : t.oneEmpty.emptyReads = 1 := congrArg (· + 1) ht.emptyReads
          rw [if_pos rfl]
          exact .throw (.inl (Tally.settled_of_lt (by omega) rfl))
      | some timing =>
          apply (keeps_timedArchive t.calm_rowEnded.settled v queue timing.id).bind
          rintro archived _ rfl
          exact (ih (reads + 1) t.rowEnded.calm_rowEnded).bind_pure fun _ _ h => h

theorem keeps_sendMessages (v : Int) (queue : String) (left : Nat) (ht : t.Calm) :
    Keeps lag halt t (sendMessages ⟨Memory.store, v⟩ queue left)
      (sendMessages ⟨recordedStore, v⟩ queue left) fun _ t' => t'.Calm := by
  induction left generalizing t with
  | zero => exact .pure ht
  | succ left ih =>
      apply (keeps_sendOne ht.settled v queue).bind
      rintro id _ rfl
      exact (ih t.calm_oneSent).bind_pure fun _ _ h => h

theorem keeps_deleteMessages (v : Int) (queue : String) (ids : List Int) (ht : t.Calm) :
    Keeps lag halt t (deleteMessages ⟨Memory.store, v⟩ queue ids)
      (deleteMessages ⟨recordedStore, v⟩ queue ids) fun _ t' => t'.Calm := by
  induction ids generalizing t with
  | nil => exact .pure ht
  | cons id rest ih =>
      apply (keeps_timedDelete ht.settled v queue id).bind
      rintro timing _ rfl
      exact (ih t.calm_oneDeleted).bind_pure fun _ _ h => h

/-- A benchmark tells what it has written. -/
theorem keeps_runBench (v : Int) (queue : String) (count : Nat) (vt : Int) :
    Keeps lag halt .zero (runBench ⟨Memory.store, v⟩ queue count vt)
      (runBench ⟨recordedStore, v⟩ queue count vt) fun _ t' => t'.Settled := by
  refine .ofExcept_then Tally.calm_zero.settled _ fun _ => .other_then (by decide) ?_
  apply (keeps_writeMessages v queue count Tally.calm_zero rfl).bind
  intro written t hwritten
  refine .other_then (by decide) ?_
  apply (keeps_readMessages v queue vt count count 0 hwritten).bind
  intro read t hread
  refine .other_then (by decide) ?_
  apply (keeps_sendMessages v queue count hread).bind
  intro ids t hids
  exact (keeps_deleteMessages v queue ids hids).bind_pure fun _ _ h => h.settled

/-- A producer tells its progress one message behind. -/
theorem keeps_produceMessages (v : Int) (queue : String) (total : Nat) (interval : Duration)
    (left : Nat) {sent : Nat} (ht : t.Calm) (hsent : t.sent = sent) :
    Keeps 1 halt t (produceMessages ⟨Memory.store, v⟩ queue total interval left sent)
      (produceMessages ⟨recordedStore, v⟩ queue total interval left sent)
      fun _ t' => t'.Calm ∧ t'.sent = sent + left := by
  induction left generalizing t sent with
  | zero => exact .pure ⟨ht, hsent⟩
  | succ left ih =>
      unfold produceMessages
      apply (keeps_timedSend ht.settled v queue).bind
      rintro timing _ rfl
      have hsent' : t.oneSent.sent = sent + 1 := congrArg (· + 1) hsent
      refine .after_event ?_ (by decide) (.after_wait ?_)
      · -- the tally has the message that was just sent, and what is told has not
        constructor <;> simp [hsent']
      · exact (ih t.calm_oneSent hsent').bind_pure fun _ _ h => ⟨h.1, by omega⟩

/-- In the end a producer tells what it has sent. -/
theorem keeps_produce (v : Int) (queue : String) (count : Nat) (interval : Duration) :
    Keeps 1 halt .zero (produce ⟨Memory.store, v⟩ queue count interval)
      (produce ⟨recordedStore, v⟩ queue count interval) fun _ t' => t'.Settled := by
  refine .ofExcept_then Tally.calm_zero.settled _ fun _ => ?_
  apply (keeps_produceMessages v queue count interval count Tally.calm_zero rfl).bind
  rintro timings t ⟨ht, hsent⟩
  have hcount : t.sent = count := hsent.trans (Nat.zero_add count)
  refine .emit_then ?_ (.pure ?_)
  · constructor <;> simp [hcount, List.lookup_cons]
  · have hother : "Producer finished" ≠ quietMessage := by decide
    rw [Tally.log_of_ne hother]
    exact ht.settled

/-- A consumer has deleted a message for every two timings, and the empty reads in a row that it
counts are those of the tally. -/
theorem keeps_consumeMessages (v : Int) (queue : String) (deadline : Nat) (poll : Duration)
    (vt : Int) (rounds : Nat) {empties : Nat} (ht : t.Settled) (hempty : t.emptyReads = empties)
    (hempties : empties ≤ 4294967295) :
    Keeps lag (· = .failed .overflow) t
      (consumeMessages ⟨Memory.store, v⟩ queue deadline poll vt rounds empties)
      (consumeMessages ⟨recordedStore, v⟩ queue deadline poll vt rounds empties)
      fun timings t' => t'.Settled ∧ 2 * t'.deleted = 2 * t.deleted + timings.length := by
  induction rounds generalizing t empties with
  | zero =>
      unfold consumeMessages
      refine .elapsed_then fun elapsed => ?_
      split
      · exact .pure ⟨ht, rfl⟩
      · exact .throw (.inl ht)
  | succ rounds ih =>
      unfold consumeMessages
      refine .elapsed_then fun elapsed => ?_
      split
      · exact .pure ⟨ht, rfl⟩
      apply (keeps_timedRead ht v queue vt).bind
      rintro timing? _ rfl
      cases timing? with
      | none =>
          -- one more in the row, for the tally as for the loop
          rw [if_pos rfl]
          have hempty' : t.oneEmpty.emptyReads = empties + 1 := congrArg (· + 1) hempty
          refine .oneMore_then hempty' hempties fun hcount => ?_
          refine .event_cases (fun hmany => ?_) fun hfew => ?_
          · have hthird : 3 ≤ t.oneEmpty.emptyReads := by
              rw [hempty']
              exact hmany
            constructor
            · constructor <;> simp [hempty', List.lookup_cons]
              exact Nat.le_of_lt_succ hmany
            · exact .wait_then (ih (Tally.settled_log hthird rfl _ _) hempty' hcount)
          · have hsecond : t.oneEmpty.emptyReads < 3 := by
              rw [hempty']
              exact Nat.lt_of_not_le hfew
            exact .wait_then (ih (Tally.settled_of_lt hsecond rfl) hempty' hcount)
      | some timing =>
          apply (keeps_timedDelete t.calm_rowEnded.settled v queue timing.id).bind
          rintro deleted _ rfl
          apply (ih t.rowEnded.calm_oneDeleted.settled rfl (Nat.zero_le _)).bind
          rintro rest t' ⟨ht', hcount⟩
          refine .pure ⟨ht', ?_⟩
          have hdeleted : t.rowEnded.oneDeleted.deleted = t.deleted + 1 := rfl
          rw [hdeleted] at hcount
          simp only [List.length_cons]
          omega

/-- In the end a consumer tells what it has deleted. -/
theorem keeps_consume (v : Int) (queue : String) (runFor poll : Duration) (vt : Int)
    (rounds : Nat) :
    Keeps lag (· = .failed .overflow) .zero
      (consume ⟨Memory.store, v⟩ queue runFor poll vt rounds)
      (consume ⟨recordedStore, v⟩ queue runFor poll vt rounds) fun _ t' => t'.Settled := by
  refine .elapsed_then fun start => ?_
  apply (keeps_consumeMessages v queue _ poll vt rounds Tally.calm_zero.settled rfl
    (Nat.zero_le _)).bind
  rintro timings t ⟨ht, hdeleted⟩
  have hcount : timings.length / 2 = t.deleted := by
    have hzero : Tally.zero.deleted = 0 := rfl
    omega
  refine .emit_then ?_ (.pure ?_)
  · constructor <;> simp [hcount, List.lookup_cons]
  · have hother : "Consumer finished" ≠ quietMessage := by decide
    rw [Tally.log_of_ne hother]
    exact ht

end Loops

/-! ## All loops -/

/-- The loops over a queue: a benchmark of so many messages, a producer of so many with a pause, and
a consumer for a time with a pause and so many rounds. -/
inductive Job where
  | bench (count : Nat) (vt : Int)
  | produce (count : Nat) (interval : Duration)
  | consume (runFor poll : Duration) (vt : Int) (rounds : Nat)

namespace Job

/-- The loop of a client on a queue. -/
def run {σ : Type} (c : Client σ) (queue : String) : Job → Loop σ (List Timing)
  | bench count vt => runBench c queue count vt
  | produce count interval => Bench.produce c queue count interval
  | consume runFor poll vt rounds => Bench.consume c queue runFor poll vt rounds

/-- How many messages a loop leaves out when it tells its progress: a producer one. -/
def lag : Job → Nat
  | produce _ _ => 1
  | bench _ _ | consume _ _ _ _ => 0

/-- The story of a loop. -/
def story (job : Job) (queue : String) (v : Int) (w : World Memory) : List Happening :=
  storyOf (job.run ⟨recordedStore, v⟩ queue) w

end Job

/-- A loop tells its progress, but that producers may be some messages behind. -/
structure ProgressTold (lag : Nat) (job : Job) (queue : String) (v : Int) (w : World Memory) :
    Prop where
  /-- Around the store with notes the loop does what it does without, and the notes are those of the
  story. -/
  noted : job.run ⟨recordedStore, v⟩ queue (w.withNotes []) =
    ((job.run ⟨Memory.store, v⟩ queue w).1, (job.run ⟨Memory.store, v⟩ queue w).2.withNotes
      (notesFrom w.events.size (job.story queue v w)))
  /-- So are the events that it logs. -/
  logged : (job.run ⟨Memory.store, v⟩ queue w).2.events =
    w.events ++ (eventsOf (job.story queue v w)).toArray
  /-- Every event tells what has happened by then. -/
  counted : ∀ before e after, job.story queue v w = before ++ .event e :: after →
    (Tally.zero.after before).Matches lag e
  /-- Of empty reads in a row the third and all later ones are reported once, before the next
  call. -/
  reported : ∀ before c after, job.story queue v w = before ++ .call c :: after →
    (Tally.zero.after before).Settled
  /-- So is the last one, before the end, unless there are more of them than 32 bits count, at which
  the loop panics. -/
  settled : (Tally.zero.after (job.story queue v w)).Settled ∨
    (Tally.zero.after (job.story queue v w)).emptyReads = 4294967296 ∧
      (job.run ⟨Memory.store, v⟩ queue w).1 = .error (.failed .overflow)

/-- Every loop tells its progress, with that of a producer one message behind. -/
theorem progress_told (job : Job) (queue : String) (v : Int) (w : World Memory) :
    ProgressTold job.lag job queue v w := by
  have hkeeps : Keeps job.lag (· = .failed .overflow) .zero (job.run ⟨Memory.store, v⟩ queue)
      (job.run ⟨recordedStore, v⟩ queue) fun _ t' => t'.Settled := by
    cases job with
    | bench count vt => exact keeps_runBench v queue count vt
    | produce count interval => exact keeps_produce v queue count interval
    | consume runFor poll vt rounds => exact keeps_consume v queue runFor poll vt rounds
  obtain ⟨story, htells, hcounted, hok, herror⟩ := hkeeps.told w
  obtain rfl : job.story queue v w = story := htells.storyOf_eq
  refine ⟨htells.noted [], htells.logged, ?_, ?_, ?_⟩
  · intro before e after hstory
    rw [hstory] at hcounted
    exact (counted_append.1 hcounted).2.1
  · intro before c after hstory
    rw [hstory] at hcounted
    exact (counted_append.1 hcounted).2.1
  · cases hend : (job.run ⟨Memory.store, v⟩ queue w).1 with
    | error e =>
        rcases herror e hend with hsettled | ⟨hfull, rfl⟩
        · exact .inl hsettled
        · exact .inr ⟨hfull, rfl⟩
    | ok timings => exact .inl (hok timings hend)

/-- A producer leaves out the first message, which it has sent. -/
theorem not_progressTold_firstMessage :
    emptyJobs.store.Reachable ∧ emptyJobs.store.offline = false ∧
      emptyJobs.store.queues.contains jobs.text = true ∧
      ¬ProgressTold 0 (.produce 1 .zero) jobs.text 30 emptyJobs := by
  refine ⟨⟨.epoch, [.request (.create jobs)], _, rfl⟩, rfl, rfl, fun h => ?_⟩
  let story := Job.story (.produce 1 .zero) jobs.text 30 emptyJobs
  have hmatches := h.counted (story.take 2)
    (.info "Produce progress" [("sent", .integer 0), ("total", .integer 1)]) (story.drop 3) rfl
  exact absurd (hmatches.produced rfl) (by decide)

end Bench
end MessageQueue
