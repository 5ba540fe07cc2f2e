import Mathlib.Algebra.Order.BigOperators.Group.List
import Mathlib.Algebra.Order.Ring.Nat
import MessageQueue.Proofs.Database.Exchanges
import MessageQueue.Rag.Agent

/-!
# Loading documents

Loading creates the document table and then, unless there is nothing to load, inserts the chunks
batch by batch within one transaction.  Every statement waits for the one before it, so that the
transaction is committed only after every batch was acknowledged, and the first failure is the
end of it.  The rows are counted in 64 bits; a server that counts more than one for each chunk can
bring that to an end as well.

Main results:

- Theorem `length_of_mem_dropLast_batches`: every batch but the last is full.
- Theorem `loadDocuments_follows`: loading follows its plan.
- Theorem `load_all_or_nothing`: what is sent and what comes of it, whatever the server
  answers.
-/

namespace MessageQueue
namespace Rag

open Database (Server Action DriverError Exchange Follows Outcome Param)

variable {σ α : Type}

/-! ## Batches -/

/-- Every batch but the last is full. -/
theorem length_of_mem_dropLast_batches {n : Nat} {xs batch : List α}
    (h : batch ∈ (batches n xs).dropLast) : batch.length = n + 1 := by
  fun_induction batches n xs with
  | case1 => cases h
  | case2 x rest ih =>
      by_cases hlast : batches n (rest.drop n) = []
      · rw [hlast] at h
        cases h
      · rw [List.dropLast_cons_of_ne_nil hlast] at h
        rcases List.mem_cons.1 h with rfl | h
        · have hmore : rest.drop n ≠ [] := by
            intro hnil
            rw [hnil, batches] at hlast
            exact hlast rfl
          have hlength : n < rest.length := by
            simpa using hmore
          simp only [List.length_cons, List.length_take]
          omega
        · exact ih h

/-- A list cut into pieces: they hold everything once and in order, none is empty or larger than
allowed, and all but the last are full. -/
structure Batched (size : Nat) (xs : List α) (pieces : List (List α)) : Prop where
  in_order : pieces.flatten = xs
  bounded : ∀ batch ∈ pieces, 0 < batch.length ∧ batch.length ≤ size
  full : ∀ batch ∈ pieces.dropLast, batch.length = size

theorem batched_batches (n : Nat) (xs : List α) : Batched (n + 1) xs (batches n xs) where
  in_order := flatten_batches n xs
  bounded _ := length_le_of_mem_batches
  full _ := length_of_mem_dropLast_batches

/-- Four columns of a batch: equally long, with the values of one chunk at each position. -/
def HasColumns (batch : List DocumentChunk) (params : List Param) : Prop :=
  ∃ names ids details contents,
    params = [.textArray names, .textArray ids, .jsonbArray details, .textArray contents] ∧
      names.length = batch.length ∧ ids.length = batch.length ∧
      details.length = batch.length ∧ contents.length = batch.length ∧
      ∀ i (h : i < batch.length),
        names[i]? = some batch[i].documentName ∧ ids[i]? = some batch[i].chunkId ∧
          details[i]? = some batch[i].details ∧ contents[i]? = some batch[i].content

theorem hasColumns_insertBatch (p : RagProject) (batch : List DocumentChunk) :
    HasColumns batch (insertBatch p batch).params := by
  refine ⟨_, _, _, _, rfl, List.length_map _, List.length_map _, List.length_map _,
    List.length_map _, ?_⟩
  intro i h
  simp [h]

/-! ## The plan -/

/-- The text that creates the document table of an agent. -/
def creationText (agent : String) : String :=
  "CREATE TABLE IF NOT EXISTS vectorize._data_" ++ agent ++ " (" ++
    "record_id BIGINT GENERATED ALWAYS AS IDENTITY PRIMARY KEY, " ++
    "document_name TEXT NOT NULL, chunk_id TEXT NOT NULL, meta JSONB, content TEXT NOT NULL)"

/-- The text that inserts rows into the document table of an agent. -/
def insertionText (agent : String) : String :=
  "INSERT INTO vectorize._data_" ++ agent ++ " (document_name, chunk_id, meta, content) " ++
    "SELECT * FROM UNNEST($1::text[], $2::text[], $3::jsonb[], $4::text[])"

/-- The insertion of a batch for an agent. -/
inductive Inserts (agent : String) (batch : List DocumentChunk) : Action → Prop
  | columns {params : List Param} (h : HasColumns batch params) :
      Inserts agent batch (.run ⟨insertionText agent, params⟩)

/-- What is sent to load some chunks for an agent, as long as nothing fails. -/
inductive Plan (agent : String) : List DocumentChunk → List Action → Prop
  | nothing : Plan agent [] [.run ⟨creationText agent, []⟩]
  | something {chunks : List DocumentChunk} {pieces : List (List DocumentChunk)}
      {inserts : List Action} (hsome : chunks ≠ []) (hpieces : Batched 1000 chunks pieces)
      (hinserts : List.Forall₂ (Inserts agent) pieces inserts) :
      Plan agent chunks (.run ⟨creationText agent, []⟩ :: .begin :: (inserts ++ [.commit]))

theorem createTableSql_eq (p : RagProject) : p.createTableSql = creationText p.agentName := by
  have hhead : "CREATE TABLE IF NOT EXISTS " ++ (ragSchema ++ "." ++ "_data_") =
      "CREATE TABLE IF NOT EXISTS vectorize._data_" := by rfl
  unfold RagProject.createTableSql RagProject.qualifiedTable RagProject.tableName creationText
  rw [← hhead]
  simp only [String.append_assoc, -String.reduceAppend]

theorem insertDocumentsSql_eq (p : RagProject) :
    p.insertDocumentsSql = insertionText p.agentName := by
  have hhead : "INSERT INTO " ++ (ragSchema ++ "." ++ "_data_") =
      "INSERT INTO vectorize._data_" := by rfl
  unfold RagProject.insertDocumentsSql RagProject.qualifiedTable RagProject.tableName insertionText
  rw [← hhead]
  simp only [String.append_assoc, -String.reduceAppend]

theorem createTable_eq (p : RagProject) : createTable p = ⟨creationText p.agentName, []⟩ := by
  rw [createTable, createTableSql_eq]

/-- The insertions of some batches. -/
def insertions (p : RagProject) (pieces : List (List DocumentChunk)) : List Action :=
  pieces.map fun batch => .run (insertBatch p batch)

theorem forall₂_insertions (p : RagProject) (pieces : List (List DocumentChunk)) :
    List.Forall₂ (Inserts p.agentName) pieces (insertions p pieces) := by
  induction pieces with
  | nil => exact .nil
  | cons batch rest ih =>
      refine .cons ?_ ih
      have hcolumns := @Inserts.columns p.agentName _ _ (hasColumns_insertBatch p batch)
      rwa [← insertDocumentsSql_eq] at hcolumns

/-- What loading sends as long as nothing fails. -/
def loadingPlan (p : RagProject) (chunks : List DocumentChunk) : List Action :=
  .run (createTable p) ::
    if chunks.isEmpty then []
    else .begin :: (insertions p (batches (batchSize - 1) chunks) ++ [.commit])

theorem plan_loadingPlan (p : RagProject) (chunks : List DocumentChunk) :
    Plan p.agentName chunks (loadingPlan p chunks) := by
  by_cases hempty : chunks = []
  · subst hempty
    rw [loadingPlan, createTable_eq]
    exact .nothing
  · rw [loadingPlan, createTable_eq, if_neg (by simpa using hempty)]
    exact .something hempty (batched_batches 999 chunks) (forall₂_insertions p _)

/-! ## Rows -/

/-- The rows that the server counted for an insertion.  The statements of a load that have
parameters are its insertions. -/
def rowsInserted (x : Exchange) : Nat :=
  match x.action, x.answer with
  | .run ⟨_, _ :: _⟩, .ok outcome => outcome.count
  | _, _ => 0

/-- The rows that were inserted by some exchanges. -/
def allRowsInserted (xs : List Exchange) : Nat := (xs.map rowsInserted).sum

@[simp]
theorem allRowsInserted_append (xs ys : List Exchange) :
    allRowsInserted (xs ++ ys) = allRowsInserted xs + allRowsInserted ys := by
  simp [allRowsInserted]

/-- What comes of counting the rows of some exchanges on top of those before, in 64 bits.  The
exchange that leaves the range is the last. -/
inductive Tally (loaded : Nat) (xs : List Exchange) : Except Failure Nat → Prop
  | fits (h : loaded + allRowsInserted xs < 2 ^ 64) :
      Tally loaded xs (.ok (loaded + allRowsInserted xs))
  | overflows (hbefore : loaded + allRowsInserted xs.dropLast < 2 ^ 64)
      (h : 2 ^ 64 ≤ loaded + allRowsInserted xs) : Tally loaded xs (.error .overflow)

namespace Tally

variable {loaded : Nat} {xs ys : List Exchange} {r : Except Failure Nat}

theorem of_eq {n : Nat} (h : n = loaded + allRowsInserted xs) (hfits : n < 2 ^ 64) :
    Tally loaded xs (.ok n) := by
  subst h
  exact .fits hfits

theorem eq_ok (h : Tally loaded xs r) (hfits : loaded + allRowsInserted xs < 2 ^ 64) :
    r = .ok (loaded + allRowsInserted xs) := by
  cases h with
  | fits => rfl
  | overflows _ hover => exact absurd hfits (Nat.not_lt.2 hover)

theorem eq_error (h : Tally loaded xs r) (hover : 2 ^ 64 ≤ loaded + allRowsInserted xs) :
    loaded + allRowsInserted xs.dropLast < 2 ^ 64 ∧ r = .error .overflow := by
  cases h with
  | fits hfits => exact absurd hfits (Nat.not_lt.2 hover)
  | overflows hbefore => exact ⟨hbefore, rfl⟩

/-- Rows are counted on top of those of earlier exchanges. -/
theorem append (h : Tally (loaded + allRowsInserted xs) ys r) : Tally loaded (xs ++ ys) r := by
  cases h with
  | fits h =>
      rw [Nat.add_assoc, ← allRowsInserted_append] at h ⊢
      exact .fits h
  | overflows hbefore h =>
      have hys : ys ≠ [] := by
        rintro rfl
        exact absurd h (Nat.not_le.2 hbefore)
      rw [Nat.add_assoc, ← allRowsInserted_append] at hbefore h
      refine .overflows ?_ h
      rwa [List.dropLast_append_of_ne_nil hys]

/-- Exchanges without rows may come before. -/
theorem append_of_eq_zero (hxs : allRowsInserted xs = 0) (h : Tally loaded ys r) :
    Tally loaded (xs ++ ys) r :=
  append (by rwa [hxs, Nat.add_zero])

end Tally

/-- Adding rows sends nothing, and fails when they leave the range. -/
theorem addRows_follows (loaded : Nat) {fits : List Exchange → Except Failure Nat → Prop}
    {count : Nat} (hfits : loaded + count < 2 ^ 64 → fits [] (.ok (loaded + count)))
    (hover : 2 ^ 64 ≤ loaded + count → fits [] (.error .overflow)) :
    Follows (σ := σ) [] (addRows loaded count) (addRows loaded count) fits := by
  have hrange : ((loaded + count : Nat) : Int) ≤ Text.IntType.unsigned64.highest ↔
      loaded + count < 2 ^ 64 := by
    simp only [Text.IntType.highest]
    omega
  refine .ofExcept ?_
  simp only [hrange]
  split
  · exact hfits ‹_›
  · exact hover (Nat.le_of_not_lt ‹_›)

/-- The insertion of batches follows its plan and counts the rows on top of those before. -/
theorem insertBatches_follows (server : Server σ) (p : RagProject) (total : Nat)
    {loaded : Nat} (hloaded : loaded < 2 ^ 64) (pieces : List (List DocumentChunk)) :
    Follows (insertions p pieces) (insertBatches server p total loaded pieces)
      (insertBatches server.recorded p total loaded pieces) (Tally loaded) := by
  induction pieces generalizing loaded with
  | nil => exact .pure (.fits hloaded)
  | cons batch rest ih =>
      change Follows ([_] ++ insertions p rest) _ _ _
      refine .bind (fun xs r => xs.dropLast = [] ∧ r = .ok (allRowsInserted xs))
        (.perform (fun _ => rfl) fun outcome => ⟨rfl, rfl⟩) ?_ ?_
      · rintro xs f ⟨-, ⟨⟩⟩
      · rintro xs count ⟨hsingle, ⟨⟩⟩
        change Follows ([] ++ insertions p rest) _ _ _
        refine .bind (fun ys r => ys = [] ∧ Tally loaded xs r)
          (addRows_follows loaded (fun h => ⟨rfl, .fits h⟩) fun h => ⟨rfl, .overflows ?_ h⟩) ?_ ?_
        · rw [hsingle]
          exact hloaded
        · rintro ys f ⟨rfl, hover⟩
          rw [List.append_nil]
          exact hover
        · rintro ys loaded' ⟨rfl, ⟨hfits⟩⟩
          refine .emit_bind _ ?_
          exact (ih hfits).imp fun zs r h => by simpa using h.append

/-- An action without rows, and what came of it so far. -/
theorem step_follows (server : Server σ) {a : Action}
    {read : Outcome → Except DriverError α} {value : Outcome → α}
    (hread : ∀ outcome, read outcome = .ok (value outcome))
    (hrows : ∀ answer, rowsInserted ⟨a, answer⟩ = 0) :
    Follows [a] (Session.mapError .reported (Database.perform server none a read))
      (Session.mapError .reported (Database.perform server.recorded none a read))
      fun xs r => allRowsInserted xs = 0 ∧ ∃ b, r = .ok b := by
  refine .perform hread fun outcome => ⟨?_, _, rfl⟩
  simp [allRowsInserted, hrows]

/-- Loading follows its plan and counts the rows that were inserted. -/
theorem loadDocuments_follows (server : Server σ) (p : RagProject) (chunks : List DocumentChunk) :
    Follows (loadingPlan p chunks) (loadDocuments server p chunks)
      (loadDocuments server.recorded p chunks) (Tally 0) := by
  change Follows ([_] ++ if chunks.isEmpty then [] else _) _ _ _
  unfold loadDocuments
  refine .bind _ (step_follows server (fun _ => rfl) fun _ => rfl) ?_ ?_
  · rintro xs f ⟨-, _, ⟨⟩⟩
  · rintro created _ ⟨hcreated, -⟩
    by_cases hempty : chunks.isEmpty
    · simp only [if_pos hempty]
      exact .pure (.of_eq (by simp [hcreated]) (by decide))
    · simp only [if_neg hempty]
      refine .bind _ (step_follows server (fun _ => rfl) fun _ => rfl) ?_ ?_
      · rintro xs f ⟨-, _, ⟨⟩⟩
      · rintro begun _ ⟨hbegun, -⟩
        refine .bind _ (insertBatches_follows server p _ (by decide) _) ?_ ?_
        · intro xs f h
          exact (h.append_of_eq_zero hbegun).append_of_eq_zero hcreated
        · rintro xs n ⟨hfits⟩
          refine .bind _ (step_follows server (fun _ => rfl) fun _ => rfl) ?_ ?_
          · rintro ys f ⟨-, _, ⟨⟩⟩
          · rintro committed _ ⟨hcommitted, -⟩
            refine .emit_bind _ (.pure (.of_eq ?_ hfits))
            simp [hcreated, hbegun, hcommitted]

/-! ## What is sent -/

theorem commit_notMem_of_inserts {agent : String} {pieces : List (List DocumentChunk)}
    {inserts : List Action} (h : List.Forall₂ (Inserts agent) pieces inserts) :
    .commit ∉ inserts := by
  induction h with
  | nil => simp
  | cons hfirst _ ih =>
      cases hfirst
      simpa using ih

/-- Once the commit is sent, the whole plan is, with the commit at its end. -/
theorem Plan.sent_of_commit_mem {agent : String} {chunks : List DocumentChunk}
    {plan : List Action} {sent : List Exchange} (hplan : Plan agent chunks plan)
    (hinitial : sent.map Exchange.action <+: plan)
    (hcommit : .commit ∈ sent.map Exchange.action) :
    sent.map Exchange.action = plan ∧
      ∃ before last, sent = before ++ [last] ∧ last.action = .commit := by
  cases hplan with
  | nothing => exact absurd (hinitial.subset hcommit) (by simp)
  | @something _ pieces inserts _ _ hinserts =>
      change _ <+: (_ :: .begin :: inserts) ++ [.commit] at hinitial
      rcases List.prefix_concat_iff.1 hinitial with heq | hshort
      · refine ⟨heq, ?_⟩
        obtain ⟨before, tail, hsent, -, htail⟩ := List.map_eq_append_iff.1 heq
        obtain ⟨last, rfl, hlast⟩ := List.map_eq_singleton_iff.1 htail
        exact ⟨before, last, hsent, hlast⟩
      · have hinsert : .commit ∈ inserts := by
          simpa using hshort.subset hcommit
        exact absurd hinsert (commit_notMem_of_inserts hinserts)

/-- The rows that an action asks to insert. -/
def rowsAsked : Action → Nat
  | .run ⟨_, .textArray names :: _⟩ => names.length
  | _ => 0

/-- Loading asks for one row for each chunk. -/
theorem sum_rowsAsked_loadingPlan (p : RagProject) (chunks : List DocumentChunk) :
    ((loadingPlan p chunks).map rowsAsked).sum = chunks.length := by
  by_cases hempty : chunks = []
  · subst hempty
    rfl
  · have hbatch (batch : List DocumentChunk) :
        rowsAsked (.run (insertBatch p batch)) = batch.length := List.length_map _
    have hcreate : rowsAsked (.run (createTable p)) = 0 := rfl
    rw [loadingPlan, if_neg (by simpa using hempty)]
    simp only [List.map_cons, List.map_append, List.sum_cons, List.sum_append]
    simp only [insertions, List.map_map, Function.comp_def, hbatch, hcreate]
    rw [← List.length_flatten, flatten_batches]
    simp [rowsAsked]

/-- A server that inserts no more rows than it is asked to inserts at most one for each chunk. -/
theorem allRowsInserted_le {p : RagProject} {chunks : List DocumentChunk} {sent : List Exchange}
    (hinitial : sent.map Exchange.action <+: loadingPlan p chunks)
    (h : ∀ x ∈ sent, rowsInserted x ≤ rowsAsked x.action) :
    allRowsInserted sent ≤ chunks.length := by
  calc allRowsInserted sent
    _ ≤ (sent.map fun x => rowsAsked x.action).sum := List.sum_le_sum h
    _ = ((sent.map Exchange.action).map rowsAsked).sum := by rw [List.map_map]; rfl
    _ ≤ ((loadingPlan p chunks).map rowsAsked).sum :=
        (hinitial.sublist.map rowsAsked).sum_le_sum fun _ _ => Nat.zero_le _
    _ = chunks.length := sum_rowsAsked_loadingPlan p chunks

/-- What is sent to load some chunks by a plan, and what comes of it. -/
structure Loading (chunks : List DocumentChunk) (plan : List Action) (sent : List Exchange)
    (result : Except Failure Nat) : Prop where
  /-- What is sent are the first actions of the plan. -/
  in_order : sent.map Exchange.action <+: plan
  /-- An action is followed by another only when it was acknowledged. -/
  acknowledged : ∀ x ∈ sent.dropLast, x.Acknowledged
  /-- The first failure is the end of it and what is reported. -/
  failed : ∀ x ∈ sent, ∀ e, x.answer = .error e →
    sent.getLast? = some x ∧ result = .error (.reported (e.toQueueError none))
  /-- The transaction is committed only after every other action was acknowledged. -/
  committed : .commit ∈ sent.map Exchange.action →
    sent.map Exchange.action = plan ∧ ∀ x ∈ sent, x.action ≠ .commit → x.Acknowledged
  /-- Without failure everything is sent, and the rows that were inserted are counted. -/
  loaded : (∀ x ∈ sent, x.Acknowledged) → allRowsInserted sent < 2 ^ 64 →
    sent.map Exchange.action = plan ∧ result = .ok (allRowsInserted sent)
  /-- When the count of rows leaves its range, that is the end of it, and nothing is committed. -/
  overflowed : (∀ x ∈ sent, x.Acknowledged) → 2 ^ 64 ≤ allRowsInserted sent →
    allRowsInserted sent.dropLast < 2 ^ 64 ∧ .commit ∉ sent.map Exchange.action ∧
      result = .error .overflow
  /-- That takes a server that inserts more rows than it is asked to. -/
  asked : (∀ x ∈ sent, rowsInserted x ≤ rowsAsked x.action) →
    allRowsInserted sent ≤ chunks.length
  /-- For no chunks nothing is sent but the creation of the table, and no rows are counted. -/
  nothing_to_load : chunks = [] →
    sent.map Exchange.action = plan ∧ allRowsInserted sent = 0

/-- Loading sends the creation of the table and then, if there is something to load, the insertion
of all batches within one transaction; each batch holds the next chunks in their order, and the
columns of its insertion hold the values of its chunks. -/
theorem load_all_or_nothing (server : Server σ) (p : RagProject) (chunks : List DocumentChunk)
    (w : World σ) :
    ∃ plan sent, Plan p.agentName chunks plan ∧
      loadDocuments server.recorded p chunks (w.withNotes []) =
        ((loadDocuments server p chunks w).1, (loadDocuments server p chunks w).2.withNotes sent) ∧
      Loading chunks plan sent (loadDocuments server p chunks w).1 := by
  have hplan := plan_loadingPlan p chunks
  obtain ⟨sent, hrecord, hsent, htally⟩ := (loadDocuments_follows server p chunks).runs w []
  have hcommitted (h : .commit ∈ sent.map Exchange.action) :
      sent.map Exchange.action = loadingPlan p chunks ∧
        ∃ before last, sent = before ++ [last] ∧ last.action = .commit :=
    hplan.sent_of_commit_mem hsent.in_order h
  have hloaded (hall : ∀ x ∈ sent, x.Acknowledged) (hfits : allRowsInserted sent < 2 ^ 64) :
      sent.map Exchange.action = loadingPlan p chunks ∧
        (loadDocuments server p chunks w).1 = .ok (allRowsInserted sent) := by
    have htold := (htally hall).eq_ok (by rwa [Nat.zero_add])
    rw [Nat.zero_add] at htold
    exact ⟨(hsent.whole _ htold).2, htold⟩
  refine ⟨_, sent, hplan, hrecord, hsent.in_order, hsent.acknowledged, ?_, ?_, hloaded, ?_,
    allRowsInserted_le hsent.in_order, ?_⟩
  · intro x hx e he
    have hlast := hsent.getLast?_of_answer_error hx he
    exact ⟨hlast, hsent.refused x e hlast he⟩
  · intro hcommit
    obtain ⟨hwhole, before, last, rfl, hlast⟩ := hcommitted hcommit
    refine ⟨hwhole, fun x hx hne => hsent.acknowledged x ?_⟩
    rw [List.dropLast_concat]
    rcases List.mem_append.1 hx with hx | hx
    · exact hx
    · rw [List.mem_singleton.1 hx] at hne
      exact absurd hlast hne
  · intro hall hover
    obtain ⟨hbefore, hresult⟩ := (htally hall).eq_error (by rwa [Nat.zero_add])
    rw [Nat.zero_add] at hbefore
    refine ⟨hbefore, fun hcommit => ?_, hresult⟩
    obtain ⟨-, before, ⟨a, answer⟩, rfl, rfl⟩ := hcommitted hcommit
    -- The commit adds no rows, so the count was out of range before it.
    rw [List.dropLast_concat] at hbefore
    rw [allRowsInserted_append] at hover
    exact absurd hbefore (Nat.not_lt.2 hover)
  · rintro rfl
    rcases List.prefix_concat_iff.1 (show _ <+: [] ++ [_] from hsent.in_order) with hwhole | hnil
    · obtain ⟨x, rfl, hx⟩ := List.map_eq_singleton_iff.1 hwhole
      refine ⟨hwhole, ?_⟩
      obtain ⟨a, answer⟩ := x
      cases hx
      rfl
    · rw [List.prefix_nil, List.map_eq_nil_iff] at hnil
      subst hnil
      cases (hloaded (by simp) (by decide)).1

end Rag
end MessageQueue
