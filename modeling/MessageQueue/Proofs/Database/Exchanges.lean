import MessageQueue.Database.Server
import MessageQueue.Proofs.Session

/-!
# Exchanges with a server

Work that sends a server one action after the other, and stops at the first that fails, has a
plan: the actions that it sends as long as nothing goes wrong.  What is sent and what is answered is
read off a server that keeps a record of its exchanges.  A session may also stop of its own accord,
since what was answered so far leaves it nothing to go on with.

Main results:

- Definition `Sent`: what the exchanges of a session with a plan tell about its result.
- Theorems `Follows.perform`, `Follows.ofExcept`, `Follows.bind` and `Follows.emit_bind`: how
  sessions that follow plans are put together.
-/

namespace MessageQueue
namespace Database

variable {σ α β : Type}

/-- An action and the answer to it. -/
structure Exchange where
  action : Action
  answer : Except DriverError Outcome

/-- An action was acknowledged when it has no error. -/
def Exchange.Acknowledged (x : Exchange) : Prop := ∃ outcome, x.answer = .ok outcome

/-- The same server with a record of its exchanges beside its state. -/
def Server.recorded (server : Server σ) : Server (σ × List Exchange) := fun a s =>
  ((server a s.1).1, (server a s.1).2, s.2 ++ [⟨a, (server a s.1).1⟩])

/-! ## Exchanges of a plan -/

/-- What the exchanges of a session with a plan tell about its result. -/
structure Sent (plan : List Action) (sent : List Exchange) (result : Except Failure α) :
    Prop where
  /-- The first actions of the plan were sent, in their order. -/
  in_order : sent.map Exchange.action <+: plan
  /-- An action was followed by another only when it was acknowledged. -/
  acknowledged : ∀ x ∈ sent.dropLast, x.Acknowledged
  /-- An action that failed is the end, and its error is reported. -/
  refused : ∀ x e, sent.getLast? = some x → x.answer = .error e →
    result = .error (.reported (e.toQueueError none))
  /-- A value means that the whole plan was acknowledged. -/
  whole : ∀ a, result = .ok a →
    (∀ x ∈ sent, x.Acknowledged) ∧ sent.map Exchange.action = plan

namespace Sent

variable {plan more : List Action} {sent later : List Exchange}

/-- Nothing was sent and nothing had to be. -/
theorem nil (result : Except Failure α) : Sent [] [] result where
  in_order := List.prefix_rfl
  acknowledged := by simp
  refused := by simp
  whole := by simp

/-- The first action that failed was the last. -/
theorem getLast?_of_answer_error {result : Except Failure α} {x : Exchange} {e : DriverError}
    (h : Sent plan sent result) (hx : x ∈ sent) (he : x.answer = .error e) :
    sent.getLast? = some x := by
  rcases List.eq_nil_or_concat sent with rfl | ⟨before, last, rfl⟩
  · cases hx
  · rw [List.concat_eq_append] at h hx ⊢
    rw [List.getLast?_concat]
    rcases List.mem_append.1 hx with hbefore | hlast
    · obtain ⟨outcome, hok⟩ := h.acknowledged x (by rwa [List.dropLast_concat])
      cases he.symm.trans hok
    · rw [List.mem_singleton.1 hlast]

/-- A session that stops in the first part of its plan has sent nothing of the second. -/
theorem of_error {f : Failure} (h : Sent plan sent (.error f : Except Failure α))
    (more : List Action) : Sent (plan ++ more) sent (.error f : Except Failure β) where
  in_order := h.in_order.trans (List.prefix_append plan more)
  acknowledged := h.acknowledged
  refused x e hx he := by
    cases h.refused x e hx he
    rfl
  whole _ ha := by cases ha

/-- The second part of a plan is sent after the whole of the first. -/
theorem append {a : α} {result : Except Failure β} (h : Sent plan sent (.ok a : Except Failure α))
    (hlater : Sent more later result) : Sent (plan ++ more) (sent ++ later) result := by
  obtain ⟨hall, hplan⟩ := h.whole a rfl
  constructor
  · rw [List.map_append, hplan]
    exact (List.prefix_append_right_inj plan).2 hlater.in_order
  · intro x hx
    rw [List.dropLast_append] at hx
    split at hx
    · exact hall x (List.dropLast_subset _ hx)
    · rcases List.mem_append.1 hx with hx | hx
      · exact hall x hx
      · exact hlater.acknowledged x hx
  · intro x e hx he
    rw [List.getLast?_append] at hx
    cases hlast : later.getLast? with
    | some y =>
        rw [hlast, Option.some_or] at hx
        exact hlater.refused x e (hlast.trans hx) he
    | none =>
        rw [hlast, Option.none_or] at hx
        obtain ⟨outcome, hok⟩ := hall x (List.mem_of_getLast? hx)
        cases he.symm.trans hok
  · intro b hb
    obtain ⟨hallLater, hmore⟩ := hlater.whole b hb
    refine ⟨?_, by rw [List.map_append, hplan, hmore]⟩
    intro x hx
    rcases List.mem_append.1 hx with hx | hx
    · exact hall x hx
    · exact hallLater x hx

end Sent

/-! ## Sessions that follow a plan -/

/-- A session follows a plan when its exchanges tell its result.  When all of them were acknowledged
the result fits what was exchanged.  With a server that records its exchanges it does the same. -/
structure Follows (plan : List Action) (work : Session σ Failure α)
    (recorded : Session (σ × List Exchange) Failure α)
    (fits : List Exchange → Except Failure α → Prop) : Prop where
  runs : ∀ w past, ∃ sent,
    recorded (w.withNotes past) = ((work w).1, (work w).2.withNotes (past ++ sent)) ∧
      Sent plan sent (work w).1 ∧ ((∀ x ∈ sent, x.Acknowledged) → fits sent (work w).1)

namespace Follows

/-- A result that fits what was exchanged may be told by less. -/
theorem imp {plan : List Action} {work : Session σ Failure α}
    {recorded : Session (σ × List Exchange) Failure α}
    {fits fits' : List Exchange → Except Failure α → Prop} (h : Follows plan work recorded fits)
    (himp : ∀ xs r, fits xs r → fits' xs r) : Follows plan work recorded fits' where
  runs w past := by
    obtain ⟨sent, hrecord, hsent, hfits⟩ := h.runs w past
    exact ⟨sent, hrecord, hsent, fun hall => himp _ _ (hfits hall)⟩

/-- A result that is there already sends nothing. -/
theorem ofExcept {fits : List Exchange → Except Failure α → Prop} {r : Except Failure α}
    (h : fits [] r) :
    Follows (σ := σ) [] (Session.ofExcept r) (Session.ofExcept r) fits where
  runs w past := ⟨[], by simp, .nil r, fun _ => h⟩

/-- A value that is there already sends nothing. -/
theorem pure {fits : List Exchange → Except Failure α → Prop} {a : α} (h : fits [] (.ok a)) :
    Follows (σ := σ) [] (Pure.pure a) (Pure.pure a) fits :=
  ofExcept h

/-- An event that is logged sends nothing. -/
theorem emit (e : Event) :
    Follows (σ := σ) [] (Session.emit e) (Session.emit e) fun xs r => xs = [] ∧ r = .ok () where
  runs w past := ⟨[], by simp [World.withNotes], .nil _, fun _ => ⟨rfl, rfl⟩⟩

/-- One action whose answer is always read. -/
theorem perform {server : Server σ} {fits : List Exchange → Except Failure α → Prop} {a : Action}
    {read : Outcome → Except DriverError α} {value : Outcome → α}
    (hread : ∀ outcome, read outcome = .ok (value outcome))
    (h : ∀ outcome, fits [⟨a, .ok outcome⟩] (.ok (value outcome))) :
    Follows [a] (Session.mapError .reported (Database.perform server none a read))
      (Session.mapError .reported (Database.perform server.recorded none a read)) fits where
  runs w past := by
    refine ⟨[⟨a, (server a w.store).1⟩], rfl, ?_, ?_⟩
    · rcases hanswer : server a w.store with ⟨e | outcome, s'⟩
      · refine ⟨List.prefix_rfl, by simp, ?_, ?_⟩
        · intro x e' hx he
          cases hx
          cases he
          simp [Database.perform, hanswer, Except.bind]
        · intro b hb
          simp [Database.perform, hanswer, Except.bind] at hb
      · refine ⟨List.prefix_rfl, by simp, ?_, ?_⟩
        · intro x e' hx he
          cases hx
          cases he
        · intro b hb
          simp [Exchange.Acknowledged]
    · intro hall
      obtain ⟨outcome, hok⟩ := hall _ (List.mem_singleton_self _)
      have hvalue : (Session.mapError Failure.reported (Database.perform server none a read) w).1 =
          .ok (value outcome) := by
        rcases hanswer : server a w.store with ⟨r, s'⟩
        rw [hanswer] at hok
        cases hok
        simp [Database.perform, hanswer, Except.bind, hread]
      rw [hvalue]
      simp only at hok
      rw [hok]
      exact h outcome

/-- The second part of a session sends its actions after those of the first. -/
theorem bind {plan more : List Action} {work : Session σ Failure α}
    {recorded : Session (σ × List Exchange) Failure α} {next : α → Session σ Failure β}
    {nextRecorded : α → Session (σ × List Exchange) Failure β}
    {fits : List Exchange → Except Failure β → Prop}
    (fitsFirst : List Exchange → Except Failure α → Prop)
    (hwork : Follows plan work recorded fitsFirst)
    (hstop : ∀ xs f, fitsFirst xs (.error f) → fits xs (.error f))
    (hnext : ∀ xs a, fitsFirst xs (.ok a) →
      Follows more (next a) (nextRecorded a) fun ys r => fits (xs ++ ys) r) :
    Follows (plan ++ more) (work >>= next) (recorded >>= nextRecorded) fits where
  runs w past := by
    obtain ⟨sent, hrecord, hsent, hfits⟩ := hwork.runs w past
    rcases hrun : work w with ⟨f | a, w'⟩
    · rw [hrun] at hrecord hsent hfits
      rw [Session.run_bind_of_error _ hrun, Session.run_bind_of_error _ hrecord]
      exact ⟨sent, rfl, hsent.of_error more, fun hall => hstop sent f (hfits hall)⟩
    · rw [hrun] at hrecord hsent hfits
      have hfit := hfits (hsent.whole a rfl).1
      obtain ⟨later, hrecordLater, hlater, hfitsLater⟩ :=
        (hnext sent a hfit).runs w' (past ++ sent)
      rw [Session.run_bind_of_ok _ hrun, Session.run_bind_of_ok _ hrecord]
      refine ⟨sent ++ later, ?_, hsent.append hlater, ?_⟩
      · rw [hrecordLater, List.append_assoc]
      · exact fun hall => hfitsLater fun x hx => hall x (List.mem_append_right sent hx)

/-- An event sends nothing. -/
theorem emit_bind {plan : List Action} {next : Unit → Session σ Failure β}
    {nextRecorded : Unit → Session (σ × List Exchange) Failure β}
    {fits : List Exchange → Except Failure β → Prop} (e : Event)
    (hnext : Follows plan (next ()) (nextRecorded ()) fits) :
    Follows plan (Session.emit e >>= next) (Session.emit e >>= nextRecorded) fits := by
  refine bind _ (emit e) ?_ ?_
  · rintro xs f ⟨-, ⟨⟩⟩
  · rintro xs u ⟨rfl, -⟩
    exact hnext

end Follows
end Database
end MessageQueue
