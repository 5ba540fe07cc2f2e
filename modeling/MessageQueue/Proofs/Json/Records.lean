import MessageQueue.Proofs.Json.RoundTrip

/-!
# Reading what was written

A reader restores something from a JSON value when it reads it from the draft of the value,
wherever the nesting of the value is allowed.  Readers that are made of others restore what is
written by the parts, and a record is restored from an object with a member for each field, in the
order of the fields.

Main results:

- Theorem `Fields.restores`: a record is restored from the object of its fields.
- Theorem `Reader.Restores.readText_object`: what is restored from an object without floating
  point numbers is read from the text of the object.
-/

namespace MessageQueue
namespace Json

variable {α β σ : Type}

/-! ## Values without floating point numbers -/

mutual

theorem floats_of_isFloatFree : (v : Json) → v.isFloatFree = true → v.floats = []
  | .null, _ | .bool _, _ | .string _, _ | .number (.integer _), _ => rfl
  | .array vs, h => itemFloats_of_itemsFloatFree vs h
  | .object ms, h => memberFloats_of_membersFloatFree ms h

theorem itemFloats_of_itemsFloatFree :
    (vs : List Json) → itemsFloatFree vs = true → itemFloats vs = []
  | [], _ => rfl
  | v :: rest, h => by
      rw [itemsFloatFree, Bool.and_eq_true] at h
      rw [itemFloats, floats_of_isFloatFree v h.1, itemFloats_of_itemsFloatFree rest h.2]
      rfl

theorem memberFloats_of_membersFloatFree :
    (ms : List (String × Json)) → membersFloatFree ms = true → memberFloats ms = []
  | [], _ => rfl
  | (_, v) :: rest, h => by
      rw [membersFloatFree, Bool.and_eq_true] at h
      rw [memberFloats, floats_of_isFloatFree v h.1, memberFloats_of_membersFloatFree rest h.2]
      rfl

end

/-! ## Items and members one by one -/

theorem areCanonical_iff {vs : List Json} :
    areCanonical vs = true ↔ ∀ v ∈ vs, v.isCanonical = true := by
  induction vs with
  | nil => simp [areCanonical]
  | cons v rest ih => simp [areCanonical, ih]

theorem membersCanonical_iff {ms : List (String × Json)} :
    membersCanonical ms = true ↔ ∀ m ∈ ms, m.2.isCanonical = true := by
  induction ms with
  | nil => simp [membersCanonical]
  | cons m rest ih => simp [membersCanonical, ih]

theorem itemsFloatFree_iff {vs : List Json} :
    itemsFloatFree vs = true ↔ ∀ v ∈ vs, v.isFloatFree = true := by
  induction vs with
  | nil => simp [itemsFloatFree]
  | cons v rest ih => simp [itemsFloatFree, ih]

theorem membersFloatFree_iff {ms : List (String × Json)} :
    membersFloatFree ms = true ↔ ∀ m ∈ ms, m.2.isFloatFree = true := by
  induction ms with
  | nil => simp [membersFloatFree]
  | cons m rest ih => simp [membersFloatFree, ih]

/-! ## Basic readers -/

namespace Reader

/-- A reader gets something from a JSON value, wherever the nesting of the value is allowed. -/
def Restores (r : Reader α) (v : Json) (a : α) : Prop :=
  ∀ o : Origin, o.Admits v.depth → r o (Draft.ofJson v) = .ok a

theorem restores_bool (b : Bool) : bool.Restores (.bool b) b :=
  fun o _ => bool_ofJson o b

theorem restores_string (s : String) : string.Restores (.string s) s :=
  fun o _ => string_ofJson o s

theorem restores_integer {t : Text.IntType} {n : Int} (h : t.contains n = true) :
    (integer t).Restores (.int n) n :=
  fun o _ => integer_ofJson h o

/-- A canonical value is restored from itself. -/
theorem restores_any {v : Json} (h : v.isCanonical = true) : any.Restores v v :=
  fun _ hdepth => any_ofJson v h hdepth

/-! ## Readers made of others -/

/-- What is taken further is restored if its start is. -/
theorem Restores.refine {r : Reader α} {v : Json} {a : α} {f : α → Except String β} {b : β}
    (h : r.Restores v a) (hf : f a = .ok b) : (r.refine f).Restores v b := by
  intro o hdepth
  rw [Reader.refine, h o hdepth]
  simp only [hf]

/-- No value is restored from null. -/
theorem restores_optional_null (r : Reader α) : (optional r).Restores .null none :=
  fun _ _ => rfl

/-- A value that is not written as null is restored where one may be missing. -/
theorem Restores.optional {r : Reader α} {v : Json} {a : α} (h : r.Restores v a)
    (hnull : v ≠ .null) : (optional r).Restores v (some a) := by
  intro o hdepth
  have hread := h o hdepth
  cases v with
  | null => exact absurd rfl hnull
  | _ =>
      rw [Draft.ofJson] at hread ⊢
      simp only [Reader.optional, hread]
      rfl

/-- So is a value that is either missing or written in some way other than null. -/
theorem restores_optional_elim {r : Reader α} {write : α → Json} {x : Option α}
    (h : ∀ a ∈ x, r.Restores (write a) a) (hnull : ∀ a, write a ≠ .null) :
    (optional r).Restores (x.elim .null write) x := by
  cases x with
  | none => exact restores_optional_null r
  | some a => exact (h a rfl).optional (hnull a)

/-- Any values one after the other are the items of an array of any values. -/
theorem each_any (o : Origin) (ds : List Draft) : each any o ds = anyItems o ds := by
  induction ds with
  | nil => rfl
  | cons d rest ih =>
      rw [each, anyItems, ih]
      cases any o d with
      | error e => rfl
      | ok v => cases anyItems o rest <;> rfl

/-- Canonical items are restored from themselves. -/
theorem restores_list_any {vs : List Json} (h : areCanonical vs = true) :
    (list any).Restores (.array vs) vs := by
  intro o hdepth
  obtain ⟨inner, henter, hinner⟩ := Origin.enter_of_admits hdepth
  rw [Draft.ofJson, list, henter]
  change (each any inner (Draft.ofItems vs) >>= fun as => .ok as) = _
  rw [each_any, anyItems_ofItems vs h hinner]
  rfl

end Reader

/-! ## Records -/

namespace Fields

/-- The names of the fields. -/
def names : {β σ : Type} → Fields β σ → List String
  | _, _, nil => []
  | _, _, cons name _ _ rest => name :: rest.names

/-- There is a member for each field in its order, from which the field is restored. -/
def Restores : {β σ : Type} → Fields β σ → List (String × Json) → β → Prop
  | _, _, nil, ms, _ => ms = []
  | _, _, cons name reader _ rest, ms, (a, b) =>
    ∃ v more, ms = (name, v) :: more ∧ reader.Restores v a ∧ rest.Restores more b

theorem restores_nil : nil.Restores [] () := rfl

/-- A member more restores a field more. -/
theorem restores_cons {name : String} {reader : Reader α} {absence : Absence α}
    {rest : Fields β σ} {v : Json} {a : α} {ms : List (String × Json)} {b : β}
    (hv : reader.Restores v a) (hrest : rest.Restores ms b) :
    (cons name reader absence rest).Restores ((name, v) :: ms) (a, b) :=
  ⟨v, ms, rfl, hv, hrest⟩

/-- The members are named as the fields are. -/
theorem Restores.map_fst {fs : Fields β σ} {ms : List (String × Json)} {record : β}
    (h : fs.Restores ms record) : ms.map Prod.fst = fs.names := by
  induction fs generalizing ms with
  | nil =>
      rw [h]
      rfl
  | cons name reader absence rest ih =>
      obtain ⟨v, more, rfl, -, hrest⟩ := h
      rw [List.map_cons, ih hrest, names]

/-- The first member of a name is read as its field. -/
theorem assign_cons_self (name : String) (reader : Reader α) (absence : Absence α)
    (rest : Fields β σ) (o : Origin) (d : Draft) (slots : σ) :
    (cons name reader absence rest).assign name o d (none, slots) =
      some ((reader o d).map fun a => (some a, slots)) :=
  if_pos rfl

/-- A member of another name belongs to the fields behind. -/
theorem assign_cons_of_ne {name k : String} (h : k ≠ name) (reader : Reader α)
    (absence : Absence α) (rest : Fields β σ) (o : Origin) (d : Draft) (slot : Option α)
    (slots : σ) :
    (cons name reader absence rest).assign k o d (slot, slots) =
      (rest.assign k o d slots).map fun r => r.map fun filled => (slot, filled) :=
  if_neg h

/-- Members of other names do not touch a field. -/
theorem readMembers_cons_of_forall_ne {name : String} {reader : Reader α} {absence : Absence α}
    {rest : Fields β σ} (o : Origin) {ms : List (String × Json)} (h : ∀ m ∈ ms, m.1 ≠ name)
    (slot : Option α) (slots : σ) :
    (cons name reader absence rest).readMembers o (Draft.ofMembers ms) (slot, slots) =
      (rest.readMembers o (Draft.ofMembers ms) slots).map fun filled => (slot, filled) := by
  induction ms generalizing slots with
  | nil => rfl
  | cons m more ih =>
      obtain ⟨k, v⟩ := m
      have hne : k ≠ name := h (k, v) List.mem_cons_self
      have hmore : ∀ m ∈ more, m.1 ≠ name := fun m hm => h m (List.mem_cons_of_mem _ hm)
      rw [Draft.ofMembers, readMembers, readMembers, assign_cons_of_ne hne]
      rcases rest.assign k o (Draft.ofJson v) slots with _ | _ | filled
      · simp only [Option.map_none, ih hmore]
        split <;> rfl
      · rfl
      · exact ih hmore filled

/-- The members of a record fill its slots and complete it. -/
theorem Restores.readMembers {fs : Fields β σ} {ms : List (String × Json)} {record : β}
    (hnames : fs.names.Nodup) (h : fs.Restores ms record) {o : Origin}
    (hdepth : o.Admits (membersDepth ms)) :
    ∃ slots, fs.readMembers o (Draft.ofMembers ms) fs.unset = .ok slots ∧
      fs.complete slots = .ok record := by
  induction fs generalizing ms with
  | nil =>
      rw [h]
      exact ⟨(), rfl, rfl⟩
  | cons name reader absence rest ih =>
      obtain ⟨a, b⟩ := record
      obtain ⟨v, more, rfl, hv, hmore⟩ := h
      obtain ⟨hname, hnames⟩ := List.nodup_cons.1 hnames
      have hread : reader o (Draft.ofJson v) = .ok a := hv o (hdepth.le (Nat.le_max_left ..))
      obtain ⟨slots, hslots, hcomplete⟩ :=
        ih hnames hmore (hdepth.le (Nat.le_max_right ..))
      have hne : ∀ m ∈ more, m.1 ≠ name := by
        rintro m hm rfl
        exact hname (hmore.map_fst ▸ List.mem_map_of_mem hm)
      refine ⟨(some a, slots), ?_, ?_⟩
      · rw [Draft.ofMembers, Fields.readMembers, unset, assign_cons_self, hread]
        change Fields.readMembers _ o (Draft.ofMembers more) (some a, rest.unset) = _
        rw [readMembers_cons_of_forall_ne o hne, hslots]
        rfl
      · rw [complete, hcomplete]
        rfl

/-- A record is restored from the object of its fields. -/
theorem restores {fs : Fields β σ} {ms : List (String × Json)} {record : β} (name : String)
    (hnames : fs.names.Nodup) (h : fs.Restores ms record) :
    (fs.read name).Restores (.object ms) record := by
  intro o hdepth
  obtain ⟨inner, henter, hinner⟩ := Origin.enter_of_admits hdepth
  obtain ⟨slots, hslots, hcomplete⟩ := h.readMembers hnames hinner
  rw [Draft.ofJson, read, henter]
  change (fs.readMembers inner (Draft.ofMembers ms) fs.unset >>= fun s => fs.complete s) = _
  rw [hslots]
  exact hcomplete

/-- So is what is made of the record. -/
theorem restores_refine {γ : Type} {fs : Fields β σ} {ms : List (String × Json)}
    {f : β → Except String γ} {c : γ} {name : String} (record : β) (hnames : fs.names.Nodup)
    (h : fs.Restores ms record) (hf : f record = .ok c) :
    ((fs.read name).refine f).Restores (.object ms) c :=
  (restores name hnames h).refine hf

end Fields

/-! ## Texts -/

/-- What is restored from an object without floating point numbers is read from its text. -/
theorem Reader.Restores.readText_object {r : Reader α} {ms : List (String × Json)} {a : α}
    (h : r.Restores (.object ms) a) (hcanonical : membersCanonical ms = true)
    (hfree : membersFloatFree ms = true) (hdepth : (object ms).depth < nestingLimit) :
    readText r (text (.object ms)) = .ok a := by
  have hfloats : ∀ x ∈ memberFloats ms, ReadsBack x := by
    rw [memberFloats_of_membersFloatFree ms hfree]
    exact fun x hx => absurd hx List.not_mem_nil
  rw [readText_of_tokens r (tokens_object hcanonical hfloats)]
  exact h _ hdepth

/-- What is restored from a canonical value without floating point numbers is read from its
text. -/
theorem Reader.Restores.readText {r : Reader α} {v : Json} {a : α} (h : r.Restores v a)
    (hcanonical : v.isCanonical = true) (hfree : v.isFloatFree = true)
    (hdepth : v.depth < nestingLimit) : Json.readText r (text v) = .ok a := by
  have hfloats : ∀ x ∈ v.floats, ReadsBack x := by
    rw [floats_of_isFloatFree v hfree]
    exact fun x hx => absurd hx List.not_mem_nil
  rw [readText_text r hcanonical hfloats]
  exact h _ hdepth

end Json
end MessageQueue
