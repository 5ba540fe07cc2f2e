import MessageQueue.Database.Setup
import MessageQueue.Database.Store
import MessageQueue.Proofs.Database.Exchanges
import MessageQueue.Proofs.Retry.Attempts
import MessageQueue.Rag.Agent

/-!
# What errors of the server become

A server tells an error by a code and a text.  Three codes speak of a table that is there already or
is missing; they become errors about a queue, which name the queue of the statement and leave the
text out.  All other codes become errors that blame no queue and tell the text.  A statement that
has no queue is told about in the same way, so that its existence errors blame a queue whose name
no queue can have.

Main results:

- Theorems `Reports.perform`, `Reports.bind` and `Reports.runFrom`: an error of the server is
  reported by every session that is put together of statements, also by one that is tried again.
- Theorem `ofServer_amountsTo`: what an error of the server amounts to.
- Theorem `server_errors_reported`: so it is reported for every statement that is sent.
-/

namespace MessageQueue
namespace Database

variable {σ ε ε' α β : Type}

/-! ## Codes and names -/

/-- What a code tells about the table of a queue. -/
inductive Existence where
  | taken
  | missing
deriving DecidableEq, Repr

/-- Existence as it is told by the codes of the server. -/
def existence? : Option String → Option Existence
  | some "42P07" | some "23505" => some .taken
  | some "42P01" => some .missing
  | _ => none

/-- The name that existence errors carry for a statement on a queue, or on none. -/
def blamedName : Option QueueName → String
  | some queue => queue.text
  | none => DriverError.unknownQueue

/-- The error about the existence of a queue of some name. -/
def Existence.error (name : String) : Existence → QueueError
  | taken => .queueExists name
  | missing => .queueNotFound name

/-- An error that blames no queue and tells a text. -/
structure Blameless (e : QueueError) (text : String) : Prop where
  not_taken : ∀ name, e ≠ .queueExists name
  not_missing : ∀ name, e ≠ .queueNotFound name
  told : text.toList <:+: e.message.toList

/-- No queue has the name that stands for none. -/
theorem text_ne_unknownQueue (queue : QueueName) : queue.text ≠ DriverError.unknownQueue := by
  intro h
  obtain ⟨-, -, hall⟩ := QueueName.accepts_iff.1 queue.accepted
  have hbracket : '<' ∈ queue.text.toList := by
    rw [h]
    simp [DriverError.unknownQueue]
  exact absurd (hall '<' hbracket) (by decide)

theorem blameless_database {reason text : String} (h : text.toList <:+: reason.toList) :
    Blameless (.database reason) text where
  not_taken _ := nofun
  not_missing _ := nofun
  told := by
    have hmessage : (QueueError.database reason).message = "Database error: " ++ reason := rfl
    rw [hmessage, String.toList_append]
    exact h.trans (List.suffix_append _ _).isInfix

/-! ## What an error of the server amounts to -/

/-- The error that a code and a text of the server amount to, for a statement on a queue or on
none. -/
structure AmountsTo (queue : Option QueueName) (code : Option String) (text : String)
    (e : QueueError) : Prop where
  /-- A code about a table blames the queue of the statement, or else the name that stands for
  none. -/
  blames : ∀ existence, existence? code = some existence →
    e = existence.error (blamedName queue)
  /-- Any other code blames no queue, and the text is told. -/
  blameless : existence? code = none → Blameless e text
  /-- Without a queue, the name that is blamed is the name of none. -/
  nobody : queue = none → ∀ q : QueueName, q.text ≠ blamedName queue
  /-- No error of the server is worth another attempt. -/
  lasting : e.isTransient = false

theorem ofServer_of_existence {code : Option String} {existence : Existence}
    (h : existence? code = some existence) (queue : Option QueueName) (text : String) :
    DriverError.ofServer queue code text = existence.error (blamedName queue) := by
  have hname : (queue.map QueueName.text).getD DriverError.unknownQueue = blamedName queue := by
    cases queue <;> rfl
  unfold existence? at h
  split at h <;> cases h <;> simp only [DriverError.ofServer, Existence.error, hname]

theorem ofServer_blameless {code : Option String} (h : existence? code = none)
    (queue : Option QueueName) (text : String) :
    Blameless (DriverError.ofServer queue code text) text := by
  unfold existence? at h
  unfold DriverError.ofServer
  split
  · cases h
  · cases h
  · cases h
  · apply blameless_database
    rw [String.toList_append]
    exact (List.suffix_append _ _).isInfix
  · exact blameless_database List.infix_rfl

/-- What an error of the server amounts to. -/
theorem ofServer_amountsTo (queue : Option QueueName) (code : Option String) (text : String) :
    AmountsTo queue code text (DriverError.ofServer queue code text) where
  blames _ h := ofServer_of_existence h queue text
  blameless h := ofServer_blameless h queue text
  nobody h q := by
    rw [h]
    exact text_ne_unknownQueue q
  lasting := DriverError.ofServer_isTransient queue code text

/-! ## Sessions that report errors of the server -/

/-- A session reports errors of the server: it does the same with a server that records its
exchanges, and when one of these was answered with an error of the server, the session ends with
what the error amounts to. -/
structure Reports (tell : QueueError → ε) (queue : Option QueueName) (work : Session σ ε α)
    (recorded : Session (σ × List Exchange) ε α) : Prop where
  exchanged : ∀ w past, ∃ sent,
    recorded (w.withNotes past) = ((work w).1, (work w).2.withNotes (past ++ sent)) ∧
      ∀ x ∈ sent, ∀ code text, x.answer = .error (.server code text) →
        (work w).1 = .error (tell (DriverError.ofServer queue code text))

namespace Reports

variable {tell : QueueError → ε} {queue : Option QueueName}

/-- A session that sends nothing has nothing to report. -/
theorem of_silent {work : Session σ ε α} {recorded : Session (σ × List Exchange) ε α}
    (h : ∀ w past, recorded (w.withNotes past) = ((work w).1, (work w).2.withNotes past)) :
    Reports tell queue work recorded := by
  constructor
  intro w past
  refine ⟨[], ?_, by simp⟩
  rw [List.append_nil]
  exact h w past

theorem pure (a : α) :
    Reports (σ := σ) tell queue (Pure.pure a) (Pure.pure a) :=
  of_silent fun _ _ => rfl

theorem emit (e : Event) :
    Reports (σ := σ) tell queue (Session.emit e) (Session.emit e) :=
  of_silent fun _ _ => rfl

theorem ofExcept (r : Except ε α) :
    Reports (σ := σ) tell queue (Session.ofExcept r) (Session.ofExcept r) :=
  of_silent fun _ _ => rfl

/-- A single action is reported, however its answer is read. -/
theorem perform (server : Server σ) (queue : Option QueueName) (a : Action)
    (read : Outcome → Except DriverError α) :
    Reports id queue (Database.perform server queue a read)
      (Database.perform server.recorded queue a read) := by
  constructor
  intro w past
  refine ⟨[⟨a, (server a w.store).1⟩], rfl, ?_⟩
  intro x hx code text hanswer
  rw [List.mem_singleton.1 hx] at hanswer
  have hserver : server a w.store = (.error (.server code text), (server a w.store).2) :=
    Prod.ext hanswer rfl
  simp only [Database.perform, Session.run_onStore]
  rw [hserver]
  rfl

/-- Errors may be taken to another type. -/
theorem mapError {work : Session σ ε α} {recorded : Session (σ × List Exchange) ε α}
    (f : ε → ε') (h : Reports tell queue work recorded) :
    Reports (fun e => f (tell e)) queue (Session.mapError f work)
      (Session.mapError f recorded) := by
  constructor
  intro w past
  obtain ⟨sent, hrun, hsent⟩ := h.exchanged w past
  refine ⟨sent, ?_, ?_⟩
  · rw [Session.run_mapError, hrun, Session.run_mapError]
  · intro x hx code text hanswer
    rw [Session.run_mapError, hsent x hx code text hanswer]
    rfl

/-- A session in two parts reports what its parts report: an error in the first part is its end. -/
theorem bind {work : Session σ ε α} {recorded : Session (σ × List Exchange) ε α}
    {next : α → Session σ ε β} {nextRecorded : α → Session (σ × List Exchange) ε β}
    (hwork : Reports tell queue work recorded)
    (hnext : ∀ a, Reports tell queue (next a) (nextRecorded a)) :
    Reports tell queue (work >>= next) (recorded >>= nextRecorded) := by
  constructor
  intro w past
  obtain ⟨sent, hrun, hsent⟩ := hwork.exchanged w past
  rcases hresult : work w with ⟨e | a, w'⟩
  · rw [hresult] at hrun hsent
    refine ⟨sent, ?_, ?_⟩
    · rw [Session.run_bind_of_error _ hrun, Session.run_bind_of_error _ hresult]
    · rw [Session.run_bind_of_error _ hresult]
      exact fun x hx code text hanswer =>
        congrArg _ (Except.error.inj (hsent x hx code text hanswer))
  · rw [hresult] at hrun hsent
    obtain ⟨more, hrunNext, hmore⟩ := (hnext a).exchanged w' (past ++ sent)
    refine ⟨sent ++ more, ?_, ?_⟩
    · rw [Session.run_bind_of_ok _ hrun, Session.run_bind_of_ok _ hresult, hrunNext,
        List.append_assoc]
    · rw [Session.run_bind_of_ok _ hresult]
      intro x hx code text hanswer
      rcases List.mem_append.1 hx with hx | hx
      · cases hsent x hx code text hanswer
      · exact hmore x hx code text hanswer

/-- An operation that is tried again ends with an error of the server, as long as these are not
worth another attempt. -/
theorem runFrom {op : Session σ ε α} {recorded : Session (σ × List Exchange) ε α}
    {worthwhile : ε → Bool} (h : Reports tell queue op recorded)
    (hlasting : ∀ code text, worthwhile (tell (DriverError.ofServer queue code text)) = false)
    (p : Retry.Policy) (name : String) (describe : ε → String) (left attempt : Nat) :
    Reports tell queue (Retry.runFrom p name describe worthwhile op left attempt)
      (Retry.runFrom p name describe worthwhile recorded left attempt) := by
  induction left generalizing attempt with
  | zero =>
      constructor
      intro w past
      obtain ⟨sent, hrun, hsent⟩ := h.exchanged w past
      have hlast : Retry.runFrom p name describe worthwhile op 0 attempt w = _ :=
        Retry.runFrom_last rfl fun _ _ => .inl rfl
      refine ⟨sent, ?_, ?_⟩
      · rw [Retry.runFrom_last hrun fun _ _ => .inl rfl, hlast]
        rfl
      · rw [hlast]
        exact hsent
  | succ more ih =>
      constructor
      intro w past
      obtain ⟨sent, hrun, hsent⟩ := h.exchanged w past
      by_cases hagain : ∃ e w', op w = (.error e, w') ∧ worthwhile e = true
      · obtain ⟨e, w', hop, hworth⟩ := hagain
        rw [hop] at hrun hsent
        obtain ⟨rest, hrunRest, hrest⟩ :=
          (ih (attempt + 1)).exchanged (Retry.retried p name (describe e) attempt w') (past ++ sent)
        refine ⟨sent ++ rest, ?_, ?_⟩
        · rw [Retry.runFrom_again hrun hworth, Retry.runFrom_again hop hworth, ← List.append_assoc]
          exact hrunRest
        · rw [Retry.runFrom_again hop hworth]
          intro x hx code text hanswer
          rcases List.mem_append.1 hx with hx | hx
          · -- An error of the server would not have been worth this attempt.
            cases hsent x hx code text hanswer
            cases (hlasting code text).symm.trans hworth
          · exact hrest x hx code text hanswer
      · have hend : ∀ e, (op w).1 = .error e → more + 1 = 0 ∨ worthwhile e = false := by
          intro e he
          refine .inr (Bool.eq_false_iff.2 fun hworth => hagain ⟨e, (op w).2, ?_, hworth⟩)
          exact Prod.ext he rfl
        have hlast : Retry.runFrom p name describe worthwhile op (more + 1) attempt w = _ :=
          Retry.runFrom_last rfl hend
        refine ⟨sent, ?_, ?_⟩
        · rw [Retry.runFrom_last hrun hend, hlast]
          rfl
        · rw [hlast]
          exact hsent

end Reports

/-! ## The work that is done by statements -/

/-- The work that is done by statements to a server. -/
inductive Work where
  | request (r : Request)
  | install (policy : Retry.Policy)
  | ask (question : RagRequest)
  | register (agent : RagProject)
  | load (agent : RagProject) (chunks : List DocumentChunk)
  | addPrompt (name system user : String)

namespace Work

/-- The queue that the statements of the work are about. -/
def target : Work → Option QueueName
  | request r => r.queue?
  | install _ | ask _ | register _ | load _ _ | addPrompt _ _ _ => none

/-- What the work comes to when it succeeds. -/
abbrev Value : Work → Type
  | request r => r.Reply
  | ask _ => ChatResponse
  | load _ _ => Nat
  | install _ | register _ | addPrompt _ _ _ => Unit

/-- The work as a session around a server. -/
def run (server : Server σ) : (work : Work) → Session σ Failure work.Value
  | request r => Database.store server r
  | install policy => Session.mapError .reported (Database.install server policy)
  | ask question => Session.mapError .reported (Rag.ask server question)
  | register agent => Session.mapError .reported (Rag.register server agent)
  | load agent chunks => Rag.loadDocuments server agent chunks
  | addPrompt name system user =>
    Session.mapError .reported (Rag.addPrompt server name system user)

end Work

theorem reports_store (server : Server σ) (r : Request) :
    Reports Failure.reported r.queue? (store server r) (store server.recorded r) := by
  refine Reports.mapError Failure.reported ((Reports.perform ..).bind fun found => ?_)
  cases eventOf r found with
  | some e => exact (Reports.emit e).bind fun _ => .ofExcept _
  | none => exact .ofExcept _

theorem reports_install (server : Server σ) (policy : Retry.Policy) :
    Reports id none (install server policy) (install server.recorded policy) := by
  refine (Reports.emit _).bind fun _ => Reports.bind ?_ fun _ => .emit _
  refine Reports.runFrom ?_ (DriverError.ofServer_isTransient none) ..
  exact (Reports.perform ..).bind fun _ => .pure ()

theorem reports_ask (server : Server σ) (question : RagRequest) :
    Reports id none (Rag.ask server question) (Rag.ask server.recorded question) :=
  (Reports.perform ..).bind fun response => (Reports.emit _).bind fun _ => .pure response

theorem reports_register (server : Server σ) (agent : RagProject) :
    Reports id none (Rag.register server agent) (Rag.register server.recorded agent) :=
  (Reports.perform ..).bind fun _ => (Reports.perform ..).bind fun _ => .emit _

theorem reports_insertBatches (server : Server σ) (agent : RagProject) (total loaded : Nat)
    (pieces : List (List DocumentChunk)) :
    Reports Failure.reported none (Rag.insertBatches server agent total loaded pieces)
      (Rag.insertBatches server.recorded agent total loaded pieces) := by
  induction pieces generalizing loaded with
  | nil => exact .pure loaded
  | cons batch rest ih =>
      refine ((Reports.perform ..).mapError Failure.reported).bind fun count => ?_
      refine Reports.bind (.ofExcept _) fun loaded => ?_
      exact (Reports.emit _).bind fun _ => ih loaded

theorem reports_loadDocuments (server : Server σ) (agent : RagProject)
    (chunks : List DocumentChunk) :
    Reports Failure.reported none (Rag.loadDocuments server agent chunks)
      (Rag.loadDocuments server.recorded agent chunks) := by
  refine ((Reports.perform ..).mapError Failure.reported).bind fun _ => ?_
  by_cases hempty : chunks.isEmpty
  · simp only [if_pos hempty]
    exact .pure 0
  · simp only [if_neg hempty]
    refine ((Reports.perform ..).mapError Failure.reported).bind fun _ => ?_
    refine (reports_insertBatches ..).bind fun loaded => ?_
    refine ((Reports.perform ..).mapError Failure.reported).bind fun _ => ?_
    exact (Reports.emit _).bind fun _ => .pure loaded

theorem reports_addPrompt (server : Server σ) (name system user : String) :
    Reports id none (Rag.addPrompt server name system user)
      (Rag.addPrompt server.recorded name system user) :=
  (Reports.perform ..).bind fun _ => .emit _

/-- All work reports errors of the server, with the queue that it is about. -/
theorem Work.reports (server : Server σ) (work : Work) :
    Reports Failure.reported work.target (work.run server) (work.run server.recorded) := by
  cases work with
  | request r => exact reports_store server r
  | install policy => exact (reports_install server policy).mapError Failure.reported
  | ask question => exact (reports_ask server question).mapError Failure.reported
  | register agent => exact (reports_register server agent).mapError Failure.reported
  | load agent chunks => exact reports_loadDocuments server agent chunks
  | addPrompt name system user =>
      exact (reports_addPrompt server name system user).mapError Failure.reported

/-- Whenever the server answers a statement with an error of its own, the work ends with what the
error amounts to for the queue of the work, or for none. -/
theorem server_errors_reported (server : Server σ) (work : Work) (w : World σ) :
    ∃ sent,
      work.run server.recorded (w.withNotes []) =
        ((work.run server w).1, (work.run server w).2.withNotes sent) ∧
      ∀ x ∈ sent, ∀ code text, x.answer = .error (.server code text) →
        ∃ e, (work.run server w).1 = .error (.reported e) ∧
          AmountsTo work.target code text e := by
  obtain ⟨sent, hrun, hsent⟩ := (work.reports server).exchanged w []
  refine ⟨sent, hrun, ?_⟩
  intro x hx code text hanswer
  exact ⟨_, hsent x hx code text hanswer, ofServer_amountsTo work.target code text⟩

/-- A server that answers every action with one error. -/
def Server.refusing (code text : String) : Server σ := fun _ s =>
  (.error (.server (some code) text), s)

/-- What is told about a prompt with a name that is taken. -/
def takenPrompt : String := "duplicate key value violates unique constraint \"prompts_pkey\""

/-- A queue is blamed when a prompt with a name that is taken is added, although the statement has
none. -/
theorem not_blameless_takenPrompt :
    (Work.addPrompt "greeting" "Be kind." "Hello").target = none ∧
      ((Work.addPrompt "greeting" "Be kind." "Hello").run (Server.refusing "23505" takenPrompt)
        (.ofStore ())).1 = .error (.reported (.queueExists "<unknown>")) ∧
      ¬Blameless (.queueExists "<unknown>") takenPrompt :=
  ⟨rfl, rfl, fun h => h.not_taken _ rfl⟩

end Database
end MessageQueue
