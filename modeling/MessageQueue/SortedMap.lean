/-!
# Sorted maps

A finite map as the list of its entries in strictly ascending order of the keys, so that
two maps with the same entries are the same value.

Main results:

- Theorems `get?_insert`, `get?_erase`, `get?_adjust`, `get?_mapValues`: what each operation
  does to the value of a key.
- Theorem `SortedMap.ext_get?`: maps that agree on every key are equal.
- Theorems `mapValues_insert`, `mapValues_erase` and `mapValues_adjust`: changing all values goes
  together with every operation.
-/

namespace MessageQueue

variable {κ α β : Type}

/-! ## Lists of entries -/

/-- The value of the first entry with a key. -/
@[specialize]
def entryOf [DecidableEq κ] (k : κ) : List (κ × α) → Option α
  | [] => none
  | e :: rest => if k = e.1 then some e.2 else entryOf k rest

/-- Puts an entry in front of the first greater key, in place of one with the same key. -/
@[specialize]
def insertEntry [LT κ] [DecidableLT κ] [DecidableEq κ] (k : κ) (v : α) :
    List (κ × α) → List (κ × α)
  | [] => [(k, v)]
  | e :: rest =>
    if k < e.1 then (k, v) :: e :: rest
    else if k = e.1 then (k, v) :: rest
    else e :: insertEntry k v rest

/-- Replaces the value of the first entry with a key and gives what the replacement tells; without
such an entry nothing changes. -/
@[specialize]
def adjustEntry [DecidableEq κ] (k : κ) (f : α → β × α) :
    List (κ × α) → Option β × List (κ × α)
  | [] => (none, [])
  | (l, v) :: rest =>
    if k = l then
      match f v with
      | (b, w) => (some b, (l, w) :: rest)
    else
      match adjustEntry k f rest with
      | (b, es) => (b, (l, v) :: es)

/-- Takes out the first entry with a key. -/
@[specialize]
def eraseEntry [DecidableEq κ] (k : κ) : List (κ × α) → List (κ × α)
  | [] => []
  | e :: rest => if k = e.1 then rest else e :: eraseEntry k rest

/-- Keys in strictly ascending order. -/
def SortedKeys [LT κ] (entries : List (κ × α)) : Prop :=
  entries.Pairwise fun a b => a.1 < b.1

theorem eraseEntry_sublist [DecidableEq κ] (k : κ) (entries : List (κ × α)) :
    (eraseEntry k entries).Sublist entries := by
  induction entries with
  | nil => exact List.Sublist.refl _
  | cons hd tl ih =>
    obtain ⟨l, w⟩ := hd
    rw [eraseEntry]
    split
    · exact List.sublist_cons_self _ _
    · exact ih.cons_cons _

theorem mem_insertEntry [LT κ] [DecidableLT κ] [DecidableEq κ] {k : κ} {v : α} {e : κ × α}
    {entries : List (κ × α)} (h : e ∈ insertEntry k v entries) : e = (k, v) ∨ e ∈ entries := by
  induction entries with
  | nil => simpa [insertEntry] using h
  | cons hd tl ih =>
    obtain ⟨l, w⟩ := hd
    rw [insertEntry] at h
    split at h
    · simpa using h
    · split at h
      · simp only [List.mem_cons] at h ⊢
        exact h.imp_right Or.inr
      · simp only [List.mem_cons] at h ⊢
        rcases h with h | h
        · exact Or.inr (Or.inl h)
        · exact (ih h).imp_right Or.inr

theorem SortedKeys.erase [LT κ] [DecidableEq κ] {entries : List (κ × α)}
    (h : SortedKeys entries) (k : κ) :
    SortedKeys (eraseEntry k entries) :=
  List.Pairwise.sublist (eraseEntry_sublist k entries) h

/-- Inserting an entry keeps the keys strictly ascending. -/
theorem SortedKeys.insert [LT κ] [LE κ] [Std.IsLinearOrder κ] [Std.LawfulOrderLT κ]
    [DecidableLT κ] [DecidableEq κ] {entries : List (κ × α)} (h : SortedKeys entries) (k : κ)
    (v : α) : SortedKeys (insertEntry k v entries) := by
  induction entries with
  | nil => simp [insertEntry, SortedKeys]
  | cons hd tl ih =>
    obtain ⟨l, w⟩ := hd
    obtain ⟨hall, htl⟩ := List.pairwise_cons.1 h
    rw [insertEntry]
    split
    · rename_i hlt
      refine List.Pairwise.cons (fun e he => ?_) h
      rcases List.mem_cons.1 he with rfl | he
      · exact hlt
      · exact Std.lt_trans hlt (hall e he)
    · split
      · rename_i heq
        subst heq
        exact List.Pairwise.cons hall htl
      · rename_i hlt hne
        refine List.Pairwise.cons (fun e he => ?_) (ih htl)
        rcases mem_insertEntry he with rfl | he
        · exact Std.lt_of_le_of_ne (Std.not_lt.1 hlt) (Ne.symm hne)
        · exact hall e he

/-- A key below all keys of a list has no value in it. -/
theorem entryOf_eq_none_of_lt [LT κ] [Std.Irrefl (fun a b : κ => a < b)] [DecidableEq κ]
    {k : κ} {entries : List (κ × α)} (h : ∀ e ∈ entries, k < e.1) : entryOf k entries = none := by
  induction entries with
  | nil => rfl
  | cons hd tl ih =>
    obtain ⟨l, w⟩ := hd
    have hl : k < l := h (l, w) (by simp)
    have hne : k ≠ l := fun heq => Std.lt_irrefl (heq ▸ hl)
    rw [entryOf, if_neg hne]
    exact ih fun e he => h e (by simp [he])

theorem entryOf_insertEntry [LT κ] [DecidableLT κ] [DecidableEq κ] (k l : κ)
    (v : α) (entries : List (κ × α)) :
    entryOf l (insertEntry k v entries) = if l = k then some v else entryOf l entries := by
  induction entries with
  | nil => simp [insertEntry, entryOf]
  | cons hd tl ih =>
    obtain ⟨m, w⟩ := hd
    rw [insertEntry]
    split
    · simp [entryOf]
    · split
      · rename_i heq
        subst heq
        by_cases hl : l = k <;> simp [entryOf, hl]
      · rename_i hne
        by_cases hl : l = m
        · have hlk : l ≠ k := fun h => hne (h.symm.trans hl)
          simp [entryOf, hl]
          exact fun h => absurd h.symm hne
        · simp [entryOf, hl, ih]

theorem entryOf_eraseEntry [LT κ] [Std.Irrefl (fun a b : κ => a < b)] [DecidableEq κ]
    {entries : List (κ × α)} (h : SortedKeys entries) (k l : κ) :
    entryOf l (eraseEntry k entries) = if l = k then none else entryOf l entries := by
  induction entries with
  | nil => simp [eraseEntry, entryOf]
  | cons hd tl ih =>
    obtain ⟨m, w⟩ := hd
    obtain ⟨hall, htl⟩ := List.pairwise_cons.1 h
    rw [eraseEntry]
    split
    · rename_i heq
      subst heq
      by_cases hl : l = k
      · subst hl
        simp [entryOf_eq_none_of_lt hall]
      · simp [entryOf, hl]
    · rename_i hne
      by_cases hl : l = m
      · have hlk : ¬ l = k := fun h => hne (h.symm.trans hl)
        simp [entryOf, hl]
        exact fun h => absurd h.symm hne
      · simp [entryOf, hl, ih htl]

/-- Sorted lists of entries that agree on every key are equal. -/
theorem SortedKeys.eq_of_entryOf [LT κ] [LE κ] [Std.IsLinearOrder κ] [Std.LawfulOrderLT κ]
    [DecidableEq κ] {xs ys : List (κ × α)} (hx : SortedKeys xs) (hy : SortedKeys ys)
    (h : ∀ k, entryOf k xs = entryOf k ys) : xs = ys := by
  induction xs generalizing ys with
  | nil =>
    cases ys with
    | nil => rfl
    | cons y ys => exact absurd (h y.1) (by simp [entryOf])
  | cons x xs ih =>
    obtain ⟨k, v⟩ := x
    obtain ⟨hxall, hxs⟩ := List.pairwise_cons.1 hx
    cases ys with
    | nil => exact absurd (h k) (by simp [entryOf])
    | cons y ys =>
      obtain ⟨l, w⟩ := y
      obtain ⟨hyall, hys⟩ := List.pairwise_cons.1 hy
      have hkl : k = l := by
        rcases Std.lt_trichotomy k l with hlt | heq | hlt
        · have := h k
          rw [entryOf, if_pos rfl, entryOf_eq_none_of_lt] at this
          · cases this
          · intro e he
            rcases List.mem_cons.1 he with rfl | he
            · exact hlt
            · exact Std.lt_trans hlt (hyall e he)
        · exact heq
        · have := (h l).symm
          rw [entryOf, if_pos rfl, entryOf_eq_none_of_lt] at this
          · cases this
          · intro e he
            rcases List.mem_cons.1 he with rfl | he
            · exact hlt
            · exact Std.lt_trans hlt (hxall e he)
      subst hkl
      have hv : v = w := by simpa [entryOf] using h k
      subst hv
      congr 1
      refine ih hxs hys fun m => ?_
      by_cases hm : m = k
      · subst hm
        rw [entryOf_eq_none_of_lt hxall, entryOf_eq_none_of_lt hyall]
      · simpa [entryOf, hm] using h m

/-! ## Replacing a value -/

theorem adjustEntry_keys [DecidableEq κ] (k : κ) (f : α → β × α) (entries : List (κ × α)) :
    (adjustEntry k f entries).2.map Prod.fst = entries.map Prod.fst := by
  fun_induction adjustEntry k f entries <;> simp_all

theorem adjustEntry_fst [DecidableEq κ] (k : κ) (f : α → β × α) (entries : List (κ × α)) :
    (adjustEntry k f entries).1 = (entryOf k entries).map fun v => (f v).1 := by
  fun_induction adjustEntry k f entries <;> simp_all [entryOf]

theorem entryOf_adjustEntry [DecidableEq κ] (k l : κ) (f : α → β × α)
    (entries : List (κ × α)) :
    entryOf l (adjustEntry k f entries).2 =
      if l = k then (entryOf l entries).map fun v => (f v).2 else entryOf l entries := by
  fun_induction adjustEntry k f entries with
  | case1 => simp [entryOf]
  | case2 v rest b w hf =>
    by_cases hl : l = k <;> simp [entryOf, hl, hf]
  | case3 m v rest h b es hes ih =>
    rw [hes] at ih
    by_cases hl : l = k
    · subst hl
      simpa [entryOf, h] using ih
    · by_cases hm : l = m
      · simp [entryOf, hm, Ne.symm h]
      · simpa [entryOf, hl, hm] using ih

/-- Replacing a value leaves the order of the keys. -/
theorem SortedKeys.adjust [LT κ] [DecidableEq κ] {entries : List (κ × α)}
    (h : SortedKeys entries) (k : κ) (f : α → β × α) :
    SortedKeys (adjustEntry k f entries).2 := by
  have hkeys : ∀ es : List (κ × α), SortedKeys es ↔ (es.map Prod.fst).Pairwise (· < ·) := by
    intro es
    simp [SortedKeys, List.pairwise_map]
  rw [hkeys] at h ⊢
  rwa [adjustEntry_keys]

/-! ## Maps -/

/-- A finite map whose entries are listed with strictly ascending keys. -/
structure SortedMap (κ α : Type) [LT κ] where
  entries : List (κ × α)
  sorted : SortedKeys entries

namespace SortedMap

variable [LT κ]

/-- The map without entries. -/
def empty : SortedMap κ α := ⟨[], List.Pairwise.nil⟩

instance : Inhabited (SortedMap κ α) := ⟨empty⟩

instance [DecidableEq κ] [DecidableEq α] : DecidableEq (SortedMap κ α) := fun a b =>
  decidable_of_iff (a.entries = b.entries)
    ⟨fun h => by cases a; cases b; simp_all, fun h => h ▸ rfl⟩

/-- The value of a key. -/
@[inline]
def get? [DecidableEq κ] (m : SortedMap κ α) (k : κ) : Option α := entryOf k m.entries

/-- Whether the key has a value. -/
@[inline]
def contains [DecidableEq κ] (m : SortedMap κ α) (k : κ) : Bool := (m.get? k).isSome

/-- The keys in ascending order. -/
def keys (m : SortedMap κ α) : List κ := m.entries.map Prod.fst

/-- The values in ascending order of their keys. -/
def values (m : SortedMap κ α) : List α := m.entries.map Prod.snd

/-- How many entries there are. -/
def size (m : SortedMap κ α) : Nat := m.entries.length

/-- The map without a key. -/
@[inline]
def erase [DecidableEq κ] (m : SortedMap κ α) (k : κ) : SortedMap κ α :=
  ⟨eraseEntry k m.entries, m.sorted.erase k⟩

/-- Replaces the value of a key and gives what the replacement tells; without the key nothing
changes. -/
@[inline]
def adjust [DecidableEq κ] (m : SortedMap κ α) (k : κ) (f : α → β × α) :
    Option β × SortedMap κ α :=
  match m with
  | ⟨es, h⟩ =>
    match adjustEntry k f es, h.adjust k f with
    | (b, es'), h' => (b, ⟨es', h'⟩)

/-- The map with every value changed, which leaves the keys as they are. -/
def mapValues (m : SortedMap κ α) (f : κ → α → β) : SortedMap κ β :=
  ⟨m.entries.map fun e => (e.1, f e.1 e.2), by
    have h := m.sorted
    simpa [SortedKeys, List.pairwise_map] using h⟩

@[simp]
theorem get?_empty [DecidableEq κ] (k : κ) : (empty : SortedMap κ α).get? k = none := rfl

theorem get?_mapValues [DecidableEq κ] (m : SortedMap κ α) (f : κ → α → β) (k : κ) :
    (m.mapValues f).get? k = (m.get? k).map (f k) := by
  obtain ⟨entries, sorted⟩ := m
  simp only [get?, mapValues]
  clear sorted
  induction entries with
  | nil => rfl
  | cons hd tl ih =>
    obtain ⟨l, w⟩ := hd
    by_cases h : k = l
    · subst h; simp [entryOf]
    · simp [entryOf, h, ih]

/-- The map with the value of a key set. -/
@[inline]
def insert [LE κ] [Std.IsLinearOrder κ] [Std.LawfulOrderLT κ] [DecidableLT κ] [DecidableEq κ]
    (m : SortedMap κ α) (k : κ) (v : α) : SortedMap κ α :=
  ⟨insertEntry k v m.entries, m.sorted.insert k v⟩

theorem get?_insert [LE κ] [Std.IsLinearOrder κ] [Std.LawfulOrderLT κ] [DecidableLT κ]
    [DecidableEq κ] (m : SortedMap κ α) (k l : κ) (v : α) :
    (m.insert k v).get? l = if l = k then some v else m.get? l :=
  entryOf_insertEntry k l v m.entries

theorem get?_erase [Std.Irrefl (fun a b : κ => a < b)] [DecidableEq κ] (m : SortedMap κ α)
    (k l : κ) :
    (m.erase k).get? l = if l = k then none else m.get? l :=
  entryOf_eraseEntry m.sorted k l

theorem adjust_fst [DecidableEq κ] (m : SortedMap κ α) (k : κ) (f : α → β × α) :
    (m.adjust k f).1 = (m.get? k).map fun v => (f v).1 :=
  adjustEntry_fst k f m.entries

theorem get?_adjust [DecidableEq κ] (m : SortedMap κ α) (k l : κ) (f : α → β × α) :
    (m.adjust k f).2.get? l = if l = k then (m.get? l).map fun v => (f v).2 else m.get? l :=
  entryOf_adjustEntry k l f m.entries

/-- Maps that agree on every key are equal. -/
theorem ext_get? [LE κ] [Std.IsLinearOrder κ] [Std.LawfulOrderLT κ] [DecidableEq κ]
    {a b : SortedMap κ α} (h : ∀ k, a.get? k = b.get? k) : a = b := by
  have := a.sorted.eq_of_entryOf b.sorted h
  cases a
  cases b
  simp_all

/-- Of two values set under one key the later counts. -/
theorem insert_insert [LE κ] [Std.IsLinearOrder κ] [Std.LawfulOrderLT κ] [DecidableLT κ]
    [DecidableEq κ] (m : SortedMap κ α) (k : κ) (v w : α) :
    (m.insert k v).insert k w = m.insert k w := by
  apply ext_get?
  intro l
  by_cases hl : l = k <;> simp [get?_insert, hl]

/-- Setting a key to the value that it has changes nothing. -/
theorem insert_of_get? [LE κ] [Std.IsLinearOrder κ] [Std.LawfulOrderLT κ] [DecidableLT κ]
    [DecidableEq κ] {m : SortedMap κ α} {k : κ} {v : α} (h : m.get? k = some v) :
    m.insert k v = m := by
  apply ext_get?
  intro l
  by_cases hl : l = k <;> simp [get?_insert, hl, h]

/-! ## Changing all values -/

section MapValues

variable {γ δ : Type} (m : SortedMap κ α) (f : κ → α → β)

@[simp]
theorem keys_mapValues : (m.mapValues f).keys = m.keys := by
  simp [keys, mapValues]

@[simp]
theorem size_mapValues : (m.mapValues f).size = m.size := by
  simp [size, mapValues]

@[simp]
theorem contains_mapValues [DecidableEq κ] (k : κ) :
    (m.mapValues f).contains k = m.contains k := by
  simp [contains, get?_mapValues]

variable [LE κ] [Std.IsLinearOrder κ] [Std.LawfulOrderLT κ] [DecidableEq κ]

/-- A value that is set may be changed before or after. -/
theorem mapValues_insert [DecidableLT κ] (k : κ) (v : α) :
    (m.insert k v).mapValues f = (m.mapValues f).insert k (f k v) := by
  apply ext_get?
  intro l
  by_cases hl : l = k <;> simp [get?_mapValues, get?_insert, hl]

theorem mapValues_erase (k : κ) : (m.erase k).mapValues f = (m.mapValues f).erase k := by
  apply ext_get?
  intro l
  by_cases hl : l = k <;> simp [get?_mapValues, get?_erase, hl]

/-- When two replacements of a value go together with the change of values, so do the maps after
them. -/
theorem mapValues_adjust {k : κ} {step : α → γ × α} {step' : β → δ × β} {g : γ → δ}
    (h : ∀ v, step' (f k v) = (g (step v).1, f k (step v).2)) :
    (m.mapValues f).adjust k step' =
      ((m.adjust k step).1.map g, (m.adjust k step).2.mapValues f) := by
  apply Prod.ext
  · simp [adjust_fst, get?_mapValues, Function.comp_def, h]
  · apply ext_get?
    intro l
    by_cases hl : l = k
    · subst hl
      simp [get?_adjust, get?_mapValues, Function.comp_def, h]
    · simp [get?_adjust, get?_mapValues, hl]

end MapValues

end SortedMap
end MessageQueue
