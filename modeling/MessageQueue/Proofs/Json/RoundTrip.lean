import MessageQueue.Json.Reader
import MessageQueue.Proofs.Json.Lexing

/-!
# Reading the texts of values

The tokens of a value are followed to the draft of the value, so that a reader makes of the text of
a value what it makes of the value itself, as long as the nesting stays below the limit for
texts.  Any value is read as itself when its numbers and the names in its objects are as they can
come out of a text, and its floating point numbers read back.

Main results:

- Theorem `ofTokens_tokensOf`: the tokens of a value are followed to its draft.
- Theorem `readText_text`: a reader gets the draft of a value from its text.
- Theorem `any_ofJson`: a canonical value is read as itself.
- Theorem `Restorable.readText`: reading undoes writing.
- Theorem `readText_text_of_le`: what is nested too deep is not read.
-/

namespace MessageQueue
namespace Json

/-! ## Following tokens -/

/-- The tokens of a value begin with one that closes no array. -/
theorem tokensOf_eq_cons (v : Json) : ∃ t ts, tokensOf v = t :: ts ∧ t ≠ .closeArray := by
  cases v <;> exact ⟨_, _, rfl, by simp⟩

/-- So do the tokens of some items. -/
theorem itemTokens_eq_cons (v : Json) (more : List Json) :
    ∃ t ts, itemTokens (v :: more) = t :: ts ∧ t ≠ .closeArray := by
  obtain ⟨t, ts, heq, hne⟩ := tokensOf_eq_cons v
  cases more with
  | nil => exact ⟨t, _, by rw [itemTokens, heq, List.cons_append], hne⟩
  | cons w rest => exact ⟨t, _, by rw [itemTokens, heq, List.cons_append]; simp, hne⟩

/-- The tokens of some members begin with a name. -/
theorem memberTokens_eq_cons (m : String × Json) (more : List (String × Json)) :
    ∃ name ts, memberTokens (m :: more) = .string name :: ts := by
  cases more with
  | nil => exact ⟨_, _, rfl⟩
  | cons w rest => exact ⟨_, _, rfl⟩

/-- There is a token of every value. -/
theorem length_tokensOf_pos (v : Json) : 0 < (tokensOf v).length := by
  obtain ⟨t, ts, heq, -⟩ := tokensOf_eq_cons v
  rw [heq]
  exact Nat.succ_pos _

namespace Draft

/-- What is followed after the bracket that opens an array with items. -/
theorem value_openArray (bound : Nat) {ts : List Token} (h : ts.head? ≠ some .closeArray) :
    value (bound + 1) (.openArray :: ts) =
      (.array (items bound ts).1 (items bound ts).2.isSome, (items bound ts).2) := by
  cases ts with
  | nil => rfl
  | cons t rest =>
      cases t <;> first | rfl | exact absurd rfl h

/-- What is followed after the brace that opens an object with members. -/
theorem value_openObject (bound : Nat) {ts : List Token} (h : ts.head? ≠ some .closeObject) :
    value (bound + 1) (.openObject :: ts) =
      (.object (members bound ts).1 (members bound ts).2.isSome, (members bound ts).2) := by
  cases ts with
  | nil => rfl
  | cons t rest =>
      cases t <;> first | rfl | exact absurd rfl h

/-- The items of an array after one that a comma follows. -/
theorem items_comma {bound : Nat} {ts rest : List Token} {d : Draft}
    (h : value bound ts = (d, some (.comma :: rest))) :
    items (bound + 1) ts = (d :: (items bound rest).1, (items bound rest).2) := by
  rw [items, h]

/-- The last item of an array. -/
theorem items_closeArray {bound : Nat} {ts rest : List Token} {d : Draft}
    (h : value bound ts = (d, some (.closeArray :: rest))) :
    items (bound + 1) ts = ([d], some rest) := by
  rw [items, h]

/-- The members of an object after one that a comma follows. -/
theorem members_comma {bound : Nat} {ts rest : List Token} {d : Draft} (name : Option String)
    (h : value bound ts = (d, some (.comma :: rest))) :
    members (bound + 1) (.string name :: .colon :: ts) =
      ((name, d) :: (members bound rest).1, (members bound rest).2) := by
  rw [members, h]

/-- The last member of an object. -/
theorem members_closeObject {bound : Nat} {ts rest : List Token} {d : Draft}
    (name : Option String) (h : value bound ts = (d, some (.closeObject :: rest))) :
    members (bound + 1) (.string name :: .colon :: ts) = ([(name, d)], some rest) := by
  rw [members, h]

mutual

/-- The tokens of a value are followed to its draft, if they are no more than the bound. -/
theorem value_tokensOf : (v : Json) → ∀ {bound}, (tokensOf v).length ≤ bound →
    ∀ rest, value bound (tokensOf v ++ rest) = (ofJson v, some rest)
  | v, 0, h, _ => absurd (length_tokensOf_pos v) (by omega)
  | .null, _ + 1, _, _ => rfl
  | .bool _, _ + 1, _, _ => rfl
  | .number _, _ + 1, _, _ => rfl
  | .string _, _ + 1, _, _ => rfl
  | .array [], _ + 1, _, _ => rfl
  | .array (v :: more), bound + 1, h, rest => by
      obtain ⟨t, ts, heq, hne⟩ := itemTokens_eq_cons v more
      have hhead : (itemTokens (v :: more) ++ rest).head? ≠ some .closeArray := by
        simpa [heq] using hne
      have hitems := items_itemTokens (v :: more) (by simp) (Nat.le_of_succ_le_succ h) rest
      rw [tokensOf, List.cons_append, value_openArray bound hhead, hitems]
      rfl
  | .object [], _ + 1, _, _ => rfl
  | .object (m :: more), bound + 1, h, rest => by
      obtain ⟨name, ts, heq⟩ := memberTokens_eq_cons m more
      have hhead : (memberTokens (m :: more) ++ rest).head? ≠ some .closeObject := by
        simp [heq]
      have hmembers := members_memberTokens (m :: more) (by simp) (Nat.le_of_succ_le_succ h) rest
      rw [tokensOf, List.cons_append, value_openObject bound hhead, hmembers]
      rfl

/-- The tokens of the items of an array are followed to their drafts. -/
theorem items_itemTokens : (vs : List Json) → vs ≠ [] → ∀ {bound},
    (itemTokens vs).length ≤ bound →
    ∀ rest, items bound (itemTokens vs ++ rest) = (ofItems vs, some rest)
  | [], hne, _, _, _ => absurd rfl hne
  | v :: more, _, 0, h, _ => by
      obtain ⟨t, ts, heq, -⟩ := itemTokens_eq_cons v more
      simp [heq] at h
  | [v], _, bound + 1, h, rest => by
      have hlength : (tokensOf v).length ≤ bound := by
        simpa [itemTokens] using h
      have hv := value_tokensOf v hlength (.closeArray :: rest)
      rw [itemTokens, List.append_assoc]
      exact items_closeArray hv
  | v :: w :: more, _, bound + 1, h, rest => by
      obtain ⟨hlength, hrest⟩ :
          (tokensOf v).length ≤ bound ∧ (itemTokens (w :: more)).length ≤ bound := by
        simp [itemTokens] at h
        omega
      have hv := value_tokensOf v hlength (.comma :: (itemTokens (w :: more) ++ rest))
      have hmore := items_itemTokens (w :: more) (by simp) hrest rest
      have hitems := items_comma hv
      rw [hmore] at hitems
      rw [itemTokens, List.append_assoc]
      · exact hitems
      · simp

/-- The tokens of the members of an object are followed to their drafts. -/
theorem members_memberTokens : (ms : List (String × Json)) → ms ≠ [] → ∀ {bound},
    (memberTokens ms).length ≤ bound →
    ∀ rest, members bound (memberTokens ms ++ rest) = (ofMembers ms, some rest)
  | [], hne, _, _, _ => absurd rfl hne
  | m :: more, _, 0, h, _ => by
      obtain ⟨name, ts, heq⟩ := memberTokens_eq_cons m more
      simp [heq] at h
  | [(k, v)], _, bound + 1, h, rest => by
      have hlength : (tokensOf v).length ≤ bound := by
        simp [memberTokens] at h
        omega
      have hv := value_tokensOf v hlength (.closeObject :: rest)
      rw [memberTokens, List.append_assoc]
      exact members_closeObject (some k) hv
  | (k, v) :: w :: more, _, bound + 1, h, rest => by
      obtain ⟨hlength, hrest⟩ :
          (tokensOf v).length ≤ bound ∧ (memberTokens (w :: more)).length ≤ bound := by
        simp [memberTokens] at h
        omega
      have hv := value_tokensOf v hlength (.comma :: (memberTokens (w :: more) ++ rest))
      have hmore := members_memberTokens (w :: more) (by simp) hrest rest
      have hmembers := members_comma (some k) hv
      rw [hmore] at hmembers
      rw [memberTokens, List.append_assoc]
      · exact hmembers
      · simp

end

/-- The tokens of a value are followed to its draft. -/
theorem ofTokens_tokensOf (v : Json) : ofTokens (tokensOf v) = (ofJson v, some []) := by
  have hbound : (tokensOf v).length ≤ 2 * (tokensOf v).length + 1 := by omega
  have hvalue := value_tokensOf v hbound []
  rwa [List.append_nil] at hvalue

end Draft

/-! ## Reading drafts -/

/-- A reader gets the draft of a value from a text that is cut into the tokens of the value. -/
theorem readText_of_tokens {α : Type} (r : Reader α) {v : Json}
    (htokens : tokens (chars v) = tokensOf v) :
    readText r (text v) = r (.text nestingLimit) (Draft.ofJson v) := by
  rw [readText, text, String.toList_ofList, htokens, Draft.ofTokens_tokensOf]
  rcases hread : r (.text nestingLimit) (Draft.ofJson v) with e | a
  · simp only [hread]
  · simp only [hread, if_true]

/-- A reader gets the draft of a value from its text. -/
theorem readText_text {α : Type} (r : Reader α) {v : Json} (hcanonical : v.isCanonical = true)
    (hfloats : ∀ x ∈ v.floats, ReadsBack x) :
    readText r (text v) = r (.text nestingLimit) (Draft.ofJson v) :=
  readText_of_tokens r (tokens_chars hcanonical hfloats)

/-- How many more levels of nesting an origin allows for: one less than a text is told, and any
number for a value. -/
def Origin.Admits : Origin → Nat → Prop
  | text levels, depth => depth < levels
  | value, _ => True

/-- An origin that allows for a nested value can be entered. -/
theorem Origin.enter_of_admits {o : Origin} {depth : Nat} (h : o.Admits (depth + 1)) :
    ∃ inner, o.enter = .ok inner ∧ inner.Admits depth := by
  cases o with
  | value => exact ⟨.value, rfl, trivial⟩
  | text levels =>
      obtain ⟨k, rfl⟩ : ∃ k, levels = k + 2 := ⟨levels - 2, by simp [Admits] at h; omega⟩
      refine ⟨.text (k + 1), rfl, ?_⟩
      simp only [Admits] at h ⊢
      omega

theorem Origin.Admits.le {o : Origin} {depth less : Nat} (h : o.Admits depth) (hle : less ≤ depth) :
    o.Admits less := by
  cases o with
  | value => trivial
  | text levels => exact Nat.lt_of_le_of_lt hle h

/-- A member whose name comes after all others is put at the end. -/
theorem insertEntry_of_forall_lt {ms : List (String × Json)} {k : String}
    (h : ∀ m ∈ ms, m.1 < k) (v : Json) : insertEntry k v ms = ms ++ [(k, v)] := by
  induction ms with
  | nil => rfl
  | cons m rest ih =>
      have hlt : m.1 < k := h m List.mem_cons_self
      have hnot : ¬k < m.1 := fun hgt => Std.lt_irrefl (Std.lt_trans hlt hgt)
      have hne : k ≠ m.1 := fun heq => Std.lt_irrefl (heq ▸ hlt)
      rw [insertEntry, if_neg hnot, if_neg hne,
        ih fun m' hm' => h m' (List.mem_cons_of_mem _ hm')]
      rfl

/-- Members in the order of their names are the members of their object. -/
theorem ofMembers_of_pairwise {ms : List (String × Json)}
    (h : ms.Pairwise fun a b => a.1 < b.1) : ofMembers ms = .object ms := by
  suffices hfold : ∀ acc : List (String × Json), (acc ++ ms).Pairwise (fun a b => a.1 < b.1) →
      ms.foldl (fun acc m => insertEntry m.1 m.2 acc) acc = acc ++ ms by
    rw [ofMembers, hfold [] h]
    rfl
  clear h
  induction ms with
  | nil => exact fun acc _ => (List.append_nil acc).symm
  | cons m rest ih =>
      intro acc hacc
      have hlast : ∀ e ∈ acc, e.1 < m.1 := fun e he =>
        (List.pairwise_append.1 hacc).2.2 e he m List.mem_cons_self
      rw [List.append_cons] at hacc
      rw [List.foldl_cons, insertEntry_of_forall_lt hlast, ih _ hacc, ← List.append_cons]

namespace Reader

mutual

/-- A canonical value is read as itself from every origin that allows for its nesting. -/
theorem any_ofJson : (v : Json) → v.isCanonical = true → ∀ {o : Origin}, o.Admits v.depth →
    any o (Draft.ofJson v) = .ok v
  | .null, _, _, _ => rfl
  | .bool _, _, _, _ => rfl
  | .number _, _, _, _ => rfl
  | .string _, _, _, _ => rfl
  | .array vs, hcanonical, _, hdepth => by
      obtain ⟨inner, henter, hinner⟩ := Origin.enter_of_admits hdepth
      rw [Draft.ofJson, any, henter]
      simp only [anyItems_ofItems vs hcanonical hinner, if_true]
  | .object ms, hcanonical, _, hdepth => by
      rw [isCanonical, Bool.and_eq_true, decide_eq_true_iff] at hcanonical
      obtain ⟨inner, henter, hinner⟩ := Origin.enter_of_admits hdepth
      rw [Draft.ofJson, any, henter]
      simp only [anyMembers_ofMembers ms hcanonical.1 hinner, if_true,
        ofMembers_of_pairwise hcanonical.2]

/-- Canonical items are read as themselves. -/
theorem anyItems_ofItems : (vs : List Json) → areCanonical vs = true → ∀ {o : Origin},
    o.Admits (itemsDepth vs) → anyItems o (Draft.ofItems vs) = .ok vs
  | [], _, _, _ => rfl
  | v :: rest, hcanonical, o, hdepth => by
      rw [areCanonical, Bool.and_eq_true] at hcanonical
      have hv := any_ofJson v hcanonical.1 (hdepth.le (Nat.le_max_left ..))
      have hrest := anyItems_ofItems rest hcanonical.2 (hdepth.le (Nat.le_max_right ..))
      rw [Draft.ofItems, anyItems, hv, hrest]
      rfl

/-- Canonical members are read as themselves. -/
theorem anyMembers_ofMembers : (ms : List (String × Json)) → membersCanonical ms = true →
    ∀ {o : Origin}, o.Admits (membersDepth ms) → anyMembers o (Draft.ofMembers ms) = .ok ms
  | [], _, _, _ => rfl
  | (k, v) :: rest, hcanonical, o, hdepth => by
      rw [membersCanonical, Bool.and_eq_true] at hcanonical
      have hv := any_ofJson v hcanonical.1 (hdepth.le (Nat.le_max_left ..))
      have hrest := anyMembers_ofMembers rest hcanonical.2 (hdepth.le (Nat.le_max_right ..))
      rw [Draft.ofMembers, anyMembers, hv, hrest]
      rfl

end

mutual

/-- A canonical value that is nested too deep for what is left of a text is not read. -/
theorem any_ofJson_of_le : (v : Json) → v.isCanonical = true → ∀ {levels : Nat},
    levels + 1 ≤ v.depth → any (.text (levels + 1)) (Draft.ofJson v) = .error .malformed
  | .null, _, _, h | .bool _, _, _, h | .number _, _, _, h | .string _, _, _, h => by
      simp [depth] at h
  | .array _, _, 0, _ => rfl
  | .array vs, hcanonical, levels + 1, h => by
      have hitems := anyItems_ofItems_of_le vs hcanonical (Nat.le_of_succ_le_succ h)
      rw [Draft.ofJson, any, Origin.enter]
      simp only [hitems]
  | .object _, _, 0, _ => rfl
  | .object ms, hcanonical, levels + 1, h => by
      rw [isCanonical, Bool.and_eq_true] at hcanonical
      have hmembers := anyMembers_ofMembers_of_le ms hcanonical.1 (Nat.le_of_succ_le_succ h)
      rw [Draft.ofJson, any, Origin.enter]
      simp only [hmembers]

/-- Canonical items of which one is nested too deep are not read. -/
theorem anyItems_ofItems_of_le : (vs : List Json) → areCanonical vs = true → ∀ {levels : Nat},
    levels + 1 ≤ itemsDepth vs →
    anyItems (.text (levels + 1)) (Draft.ofItems vs) = .error .malformed
  | [], _, _, h => by simp [itemsDepth] at h
  | v :: rest, hcanonical, levels, h => by
      rw [areCanonical, Bool.and_eq_true] at hcanonical
      rw [Draft.ofItems, anyItems]
      by_cases hv : levels + 1 ≤ v.depth
      · rw [any_ofJson_of_le v hcanonical.1 hv]
      · have hrest : levels + 1 ≤ itemsDepth rest := by
          rw [itemsDepth] at h
          omega
        have hadmits : (Origin.text (levels + 1)).Admits v.depth := Nat.lt_of_not_le hv
        rw [any_ofJson v hcanonical.1 hadmits]
        simp only [anyItems_ofItems_of_le rest hcanonical.2 hrest]
        rfl

/-- Canonical members of which one is nested too deep are not read. -/
theorem anyMembers_ofMembers_of_le : (ms : List (String × Json)) → membersCanonical ms = true →
    ∀ {levels : Nat}, levels + 1 ≤ membersDepth ms →
    anyMembers (.text (levels + 1)) (Draft.ofMembers ms) = .error .malformed
  | [], _, _, h => by simp [membersDepth] at h
  | (k, v) :: rest, hcanonical, levels, h => by
      rw [membersCanonical, Bool.and_eq_true] at hcanonical
      rw [Draft.ofMembers, anyMembers]
      by_cases hv : levels + 1 ≤ v.depth
      · rw [any_ofJson_of_le v hcanonical.1 hv]
      · have hrest : levels + 1 ≤ membersDepth rest := by
          rw [membersDepth] at h
          omega
        have hadmits : (Origin.text (levels + 1)).Admits v.depth := Nat.lt_of_not_le hv
        rw [any_ofJson v hcanonical.1 hadmits]
        simp only [anyMembers_ofMembers_of_le rest hcanonical.2 hrest]
        rfl

end

end Reader

/-! ## Reading undoes writing -/

/-- A value that comes back from its text: it is canonical, is not nested too deep for a text, and
the floating point numbers in it read back. -/
structure Restorable (v : Json) : Prop where
  canonical : v.isCanonical = true
  shallow : v.depth < nestingLimit
  floats : ∀ x ∈ v.floats, ReadsBack x

instance (v : Json) : Decidable (Restorable v) :=
  decidable_of_iff
    (v.isCanonical = true ∧ v.depth < nestingLimit ∧ ∀ x ∈ v.floats, ReadsBack x)
    ⟨fun h => ⟨h.1, h.2.1, h.2.2⟩, fun h => ⟨h.1, h.2, h.3⟩⟩

/-- Reading undoes writing. -/
theorem Restorable.readText {v : Json} (h : Restorable v) :
    Json.readText Reader.any (text v) = .ok v := by
  rw [readText_text Reader.any h.canonical h.floats]
  exact Reader.any_ofJson v h.canonical h.shallow

/-- A value that is nested too deep for a text does not come back from its own. -/
theorem readText_text_of_le {v : Json} (hcanonical : v.isCanonical = true)
    (hfloats : ∀ x ∈ v.floats, ReadsBack x) (hdeep : nestingLimit ≤ v.depth) :
    Json.readText Reader.any (text v) = .error .malformed := by
  rw [readText_text Reader.any hcanonical hfloats]
  exact Reader.any_ofJson_of_le v hcanonical hdeep

end Json
end MessageQueue
