import MessageQueue.Rag.Project

/-!
# Tables of agents

The server takes a table from a text as the word before the point and the word after it.  Words
stand unquoted, so that it folds their letters, and it keeps the first 63 bytes of an identifier.
Six of them go to what every document table begins with.  An agent may have a name of any length
and in letters of either case; two agents have one table when their names agree, but for the case
of letters, in their first 57 characters.

Main results:

- Theorems `addressedTable?_createTableSql` and `addressedTable?_insertDocumentsSql`: an agent's
  documents are inserted into the table that is created for it.
- Theorem `documentTable_eq_iff`: which agents have the same table.
- Theorem `tablesOf_agents`: where the documents of two agents are, and when they are kept apart.
- Theorem `not_keptApart_longNames`: names of different agents with the same table.
-/

namespace MessageQueue

/-! ## Identifiers -/

namespace Database

/-- The bytes that the server keeps of an identifier. -/
def identifierBytes : Nat := 63

/-- As much of a text as fits into some bytes. -/
def clip : (bytes : Nat) → List Char → List Char
  | _, [] => []
  | bytes, c :: rest =>
    if c.utf8Size ≤ bytes then c :: clip (bytes - c.utf8Size) rest else []

/-- The identifier that an unquoted word stands for. -/
def identifier (word : List Char) : String :=
  .ofList (clip identifierBytes (word.map Char.toLower))

/-- The characters of an unquoted word. -/
def isWordChar (c : Char) : Bool := isNameChar c || c == '$' || 0x80 ≤ c.toNat

/-- A table, as the server tells it from others. -/
structure TableAddress where
  schema : String
  name : String
deriving DecidableEq, Repr

/-- The table that a text begins with. -/
def readTable? (cs : List Char) : Option TableAddress :=
  match cs.dropWhile isWordChar with
  | '.' :: rest =>
    some ⟨identifier (cs.takeWhile isWordChar), identifier (rest.takeWhile isWordChar)⟩
  | _ => none

/-- How the texts begin that create a table or insert into it. -/
def openings : List String := ["CREATE TABLE IF NOT EXISTS ", "INSERT INTO "]

/-- The table that a text creates or inserts into. -/
def addressedTable? (sql : String) : Option TableAddress :=
  openings.findSome? fun opening => (opening.toList.isPrefixOf? sql.toList).bind readTable?

/-- What stands behind an opening. -/
theorem isPrefixOf?_append (opening rest : String) :
    opening.toList.isPrefixOf? (opening ++ rest).toList = some rest.toList := by
  rw [String.toList_append]
  induction opening.toList with
  | nil => rfl
  | cons c more ih =>
      have hcons : (c :: more).isPrefixOf? (c :: more ++ rest.toList) =
        if c == c then more.isPrefixOf? (more ++ rest.toList) else none := rfl
      rw [hcons, if_pos (beq_self_eq_true c), ih]

/-- Characters of one byte are clipped one by one. -/
theorem clip_eq_take {cs : List Char} (h : ∀ c ∈ cs, c.utf8Size = 1) (bytes : Nat) :
    clip bytes cs = cs.take bytes := by
  induction cs generalizing bytes with
  | nil => rw [clip, List.take_nil]
  | cons c rest ih =>
      obtain ⟨hc, hrest⟩ := List.forall_mem_cons.1 h
      cases bytes with
      | zero => rw [clip, hc, if_neg (by decide), List.take_zero]
      | succ bytes =>
          rw [clip, hc, if_pos (by omega), Nat.add_sub_cancel, ih hrest, List.take_succ_cons]

/-- The characters of names are single bytes, in either case. -/
theorem utf8Size_toLower {c : Char} (h : isNameChar c = true) : c.toLower.utf8Size = 1 := by
  have hsmall : c.toNat < 128 := Nat.lt_succ_of_le (val_le_of_isNameChar h)
  have hall : ∀ n : Fin 128, (Char.ofNat n).toLower.utf8Size = 1 := by decide
  simpa using hall ⟨c.toNat, hsmall⟩

theorem isWordChar_of_isNameChar {c : Char} (h : isNameChar c = true) : isWordChar c = true := by
  simp [isWordChar, h]

/-- A table ends before the first character that is in no word. -/
theorem readTable?_append {schema table : List Char} (hschema : ∀ c ∈ schema, isNameChar c = true)
    (htable : ∀ c ∈ table, isNameChar c = true) (rest : List Char) :
    readTable? (schema ++ '.' :: (table ++ ' ' :: rest)) =
      some ⟨identifier schema, identifier table⟩ := by
  have hword : ∀ {word : List Char} (c : Char) (rest : List Char), isWordChar c = false →
      (∀ c ∈ word, isNameChar c = true) →
      (word ++ c :: rest).takeWhile isWordChar = word ∧
        (word ++ c :: rest).dropWhile isWordChar = c :: rest := by
    intro word c rest hc h
    have h' : ∀ c ∈ word, isWordChar c = true := fun c hc => isWordChar_of_isNameChar (h c hc)
    rw [List.takeWhile_append_of_pos h', List.dropWhile_append_of_pos h',
      List.takeWhile_cons_of_neg (by simp [hc]), List.dropWhile_cons_of_neg (by simp [hc]),
      List.append_nil]
    exact ⟨rfl, rfl⟩
  obtain ⟨htake, hdrop⟩ := hword '.' (table ++ ' ' :: rest) rfl hschema
  rw [readTable?, hdrop, htake]
  simp only
  rw [(hword ' ' rest rfl htable).1]

/-- The identifier of a name that begins in small letters goes on with as many characters of the
name, in small letters, as are kept. -/
theorem identifier_append {start name : List Char} (hstart : ∀ c ∈ start, isNameChar c = true)
    (hname : ∀ c ∈ name, isNameChar c = true) (hlength : start.length ≤ identifierBytes) :
    identifier (start ++ name) = .ofList (start.map Char.toLower ++
      (name.map Char.toLower).take (identifierBytes - start.length)) := by
  have hsingle : ∀ c ∈ (start ++ name).map Char.toLower, c.utf8Size = 1 := by
    intro c hc
    obtain ⟨d, hd, rfl⟩ := List.mem_map.1 hc
    exact utf8Size_toLower ((List.mem_append.1 hd).elim (hstart d) (hname d))
  rw [identifier, clip_eq_take hsingle, List.map_append, List.take_append, List.length_map,
    List.take_of_length_le (by rwa [List.length_map])]

end Database

/-! ## Document tables -/

namespace RagProject

open Database (TableAddress addressedTable? identifier readTable?)

variable {a b : String} {p q : RagProject}

/-- The document table of an agent, as the server tells it from others. -/
def documentTable (p : RagProject) : TableAddress :=
  ⟨identifier ragSchema.toList, identifier p.tableName.toList⟩

/-- What a table keeps of the name of its agent: 57 characters, in small letters. -/
def told (name : String) : List Char := (name.toList.map Char.toLower).take 57

/-- Every table of an agent begins in name characters. -/
theorem isNameChar_of_mem_start : ∀ c ∈ "_data_".toList, isNameChar c = true :=
  List.all_eq_true.1 (by decide)

theorem isNameChar_of_mem_tableName (h : ofName a = .ok p) :
    ∀ c ∈ p.tableName.toList, isNameChar c = true := by
  obtain ⟨⟨-, hname⟩, rfl⟩ := ofName_eq_ok_iff.1 h
  intro c hc
  rw [tableName, String.toList_append] at hc
  exact (List.mem_append.1 hc).elim (isNameChar_of_mem_start c) (hname c)

/-- A text that goes on with the table of an agent names that table. -/
theorem readTable?_qualifiedTable (h : ofName a = .ok p) (rest : String) :
    readTable? (p.qualifiedTable ++ (" " ++ rest)).toList = some p.documentTable := by
  have hchars : (p.qualifiedTable ++ (" " ++ rest)).toList =
      ragSchema.toList ++ '.' :: (p.tableName.toList ++ ' ' :: rest.toList) := by
    simp [qualifiedTable]
  rw [hchars]
  exact Database.readTable?_append (List.all_eq_true.1 (by decide)) (isNameChar_of_mem_tableName h)
    rest.toList

/-- The text that creates the table of an agent. -/
theorem addressedTable?_createTableSql (h : ofName a = .ok p) :
    addressedTable? p.createTableSql = some p.documentTable := by
  have hblank : " (" = " " ++ "(" := rfl
  unfold createTableSql
  simp only [hblank, String.append_assoc]
  rw [addressedTable?, Database.openings, List.findSome?_cons, Database.isPrefixOf?_append,
    Option.bind_some, readTable?_qualifiedTable h]

/-- The text that inserts the documents of an agent. -/
theorem addressedTable?_insertDocumentsSql (h : ofName a = .ok p) :
    addressedTable? p.insertDocumentsSql = some p.documentTable := by
  have hblank : " (document_name, chunk_id, meta, content) " =
    " " ++ "(document_name, chunk_id, meta, content) " := rfl
  have hother : ∀ rest : String,
      "CREATE TABLE IF NOT EXISTS ".toList.isPrefixOf? ("INSERT INTO " ++ rest).toList = none := by
    intro rest
    rw [String.toList_append]
    rfl
  unfold insertDocumentsSql
  simp only [hblank, String.append_assoc]
  rw [addressedTable?, Database.openings, List.findSome?_cons, hother, Option.bind_none,
    List.findSome?_cons, Database.isPrefixOf?_append, Option.bind_some, readTable?_qualifiedTable h]

/-- The document table of an agent has the name of the agent as far as it is told. -/
theorem documentTable_eq (h : ofName a = .ok p) :
    p.documentTable = ⟨ragSchema, .ofList ("_data_".toList ++ told a)⟩ := by
  obtain ⟨⟨-, hname⟩, rfl⟩ := ofName_eq_ok_iff.1 h
  have hschema : identifier ragSchema.toList = ragSchema := by decide
  rw [documentTable, hschema, tableName, String.toList_append,
    Database.identifier_append isNameChar_of_mem_start hname (by decide)]
  rfl

/-- Agents have one table when the same is told of their names. -/
theorem documentTable_eq_iff (hp : ofName a = .ok p) (hq : ofName b = .ok q) :
    p.documentTable = q.documentTable ↔ told a = told b := by
  rw [documentTable_eq hp, documentTable_eq hq, TableAddress.mk.injEq, String.ofList_inj,
    List.append_cancel_left_eq]
  exact and_iff_right rfl

/-! ## Agents that are kept apart -/

/-- Agents of different names are kept apart when their texts name different tables. -/
def KeptApart (a b : String) : Prop :=
  ∀ p q, ofName a = .ok p → ofName b = .ok q → a ≠ b →
    addressedTable? p.createTableSql ≠ addressedTable? q.createTableSql ∧
      addressedTable? p.insertDocumentsSql ≠ addressedTable? q.insertDocumentsSql

/-- Different names that are accepted keep agents apart when different things are told of them. -/
theorem keptApart_iff (hp : ofName a = .ok p) (hq : ofName b = .ok q) (hne : a ≠ b) :
    KeptApart a b ↔ told a ≠ told b := by
  have hcreated : addressedTable? p.createTableSql = addressedTable? q.createTableSql ↔
      told a = told b := by
    rw [addressedTable?_createTableSql hp, addressedTable?_createTableSql hq, Option.some_inj,
      documentTable_eq_iff hp hq]
  have hfilled : addressedTable? p.insertDocumentsSql = addressedTable? q.insertDocumentsSql ↔
      told a = told b := by
    rw [addressedTable?_insertDocumentsSql hp, addressedTable?_insertDocumentsSql hq,
      Option.some_inj, documentTable_eq_iff hp hq]
  constructor
  · intro h hsame
    exact (h p q hp hq hne).1 (hcreated.2 hsame)
  · intro h p' q' hp' hq' _
    cases hp.symm.trans hp'
    cases hq.symm.trans hq'
    exact ⟨fun hsame => h (hcreated.1 hsame), fun hsame => h (hfilled.1 hsame)⟩

/-- Agents are not kept apart when the same is told of their names. -/
theorem not_keptApart (hp : ofName a = .ok p) (hq : ofName b = .ok q) (hne : a ≠ b)
    (hsame : told a = told b) : ¬KeptApart a b := by
  rw [keptApart_iff hp hq hne]
  exact fun h => h hsame

/-- Nothing more is told of a name that goes on behind 57 characters. -/
theorem told_append (h : 57 ≤ a.length) (more : String) : told (a ++ more) = told a := by
  rw [told, told, String.toList_append, List.map_append, List.take_append_of_le_length]
  rwa [List.length_map, String.length_toList]

/-- A name of at most 57 characters without capital letters is told in full. -/
theorem told_eq_self (h : a.length ≤ 57) (hsmall : ∀ c ∈ a.toList, c.toLower = c) :
    told a = a.toList := by
  rw [told, List.map_congr_left hsmall, List.map_id', List.take_of_length_le]
  rwa [String.length_toList]

/-- Where the documents of two agents are. -/
structure TablesOf (a b : String) (p q : RagProject) : Prop where
  /-- The table that is created for an agent is in the schema of agents, and its name is told by the
  name of the agent. -/
  created : addressedTable? p.createTableSql =
    some ⟨ragSchema, .ofList ("_data_".toList ++ told a)⟩
  /-- Documents of an agent are inserted into this table. -/
  filled : addressedTable? p.insertDocumentsSql = addressedTable? p.createTableSql
  /-- Agents of different names are kept apart unless the same is told of their names. -/
  apart : a ≠ b → (KeptApart a b ↔ told a ≠ told b)
  /-- Names of at most 57 characters without capital letters keep agents apart. -/
  short : a.length ≤ 57 → b.length ≤ 57 → (∀ c ∈ (a ++ b).toList, c.toLower = c) → KeptApart a b
  /-- A name that another one only adds to keeps no agent apart from 57 characters on. -/
  long : 57 ≤ a.length → ∀ more, b = a ++ more → more ≠ "" → ¬KeptApart a b

/-- The tables of any two agents. -/
theorem tablesOf_agents (hp : ofName a = .ok p) (hq : ofName b = .ok q) : TablesOf a b p q where
  created := by rw [addressedTable?_createTableSql hp, documentTable_eq hp]
  filled := by rw [addressedTable?_createTableSql hp, addressedTable?_insertDocumentsSql hp]
  apart := keptApart_iff hp hq
  short ha hb hsmall := by
    by_cases hne : a = b
    · intro _ _ _ _ hne'
      exact absurd hne hne'
    · rw [String.toList_append, List.forall_mem_append] at hsmall
      rw [keptApart_iff hp hq hne, told_eq_self ha hsmall.1, told_eq_self hb hsmall.2]
      exact fun hsame => hne (String.toList_inj.1 hsame)
  long ha more hb hmore := by
    have hne : a ≠ b := by
      rintro rfl
      exact hmore ((String.append_right_inj a).1 (hb.symm.trans String.append_empty.symm))
    exact not_keptApart hp hq hne (by rw [hb, told_append ha])

theorem tablesOf_docsAndNotes :
    ofName "docs" = .ok ⟨"docs", defaultTransformer⟩ ∧
      ofName "notes" = .ok ⟨"notes", defaultTransformer⟩ ∧
      TablesOf "docs" "notes" ⟨"docs", defaultTransformer⟩ ⟨"notes", defaultTransformer⟩ :=
  ⟨rfl, rfl, tablesOf_agents rfl rfl⟩

/-- The server takes names for one that differ behind 57 characters, or in the case of letters. -/
theorem not_keptApart_longNames :
    ¬KeptApart "aaaaaaaaaaaaaaaaaaaaaaaaaaaaaaaaaaaaaaaaaaaaaaaaaaaaaaaaa1"
        "aaaaaaaaaaaaaaaaaaaaaaaaaaaaaaaaaaaaaaaaaaaaaaaaaaaaaaaaa2" ∧
      ¬KeptApart "Docs" "docs" :=
  ⟨not_keptApart rfl rfl (by decide) (by decide), not_keptApart rfl rfl (by decide) (by decide)⟩

end RagProject
end MessageQueue
