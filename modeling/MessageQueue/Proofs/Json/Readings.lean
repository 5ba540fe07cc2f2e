import MessageQueue.Proofs.Json.Records
import MessageQueue.Proofs.Session

/-!
# What is read from texts

Whatever a text says, the integers in it have a width that is written as it was read, and nothing
is nested deeper than a text may be.  So a value without floating point numbers that is read from a
text is canonical, and a record has in each field what the reader of the field makes of such a
draft, or what stands for the field when it is missing.

Main results:

- Theorem `isWide_ofTokens`: the draft of a text has only integers that are wide.
- Theorem `Reader.any_sized`: a value that is read without floating point numbers is canonical, and
  nested no deeper than its origin allows.
- Theorem `Fields.reads_of_read`: a record has in its fields what was read, or stands for it.
-/

namespace MessageQueue
namespace Json

/-! ## Numbers of texts -/

/-- Digits are gathered into less than `2 ^ 64`. -/
theorem gatherWhole_significand_lt {ds : List Nat} {acc : Nat} (h : acc < Nat.pow 2 64) :
    (Decimal.gatherWhole acc ds).significand < Nat.pow 2 64 := by
  induction ds generalizing acc with
  | nil => exact h
  | cons d rest ih =>
      rw [Decimal.gatherWhole]
      split
      · rename_i hfits
        exact ih (of_decide_eq_true hfits)
      · exact h

theorem map_signed_ne_integer (n : Numeral) (x : Option Float) (k : Int) :
    x.map n.signed ≠ some (.integer k) := by
  cases x <;> simp [Numeral.signed]

/-- An integer that a numeral stands for is wide. -/
theorem isWide_of_number? {n : Numeral} {k : Int} (h : n.number? = some (.integer k)) :
    isWide k = true := by
  have hlt : (Decimal.gatherWhole 0 n.whole).significand < Nat.pow 2 64 :=
    gatherWhole_significand_lt (by decide)
  have hpow : Nat.pow 2 64 = 18446744073709551616 := by decide
  have hhalf : Nat.pow 2 63 = 9223372036854775808 := by decide
  unfold Numeral.number? at h
  split at h
  · unfold Numeral.whole? at h
    simp only at h
    split at h
    · exact absurd h (map_signed_ne_integer n _ k)
    · split at h
      · cases h
        simp [isWide]
        omega
      · split at h
        · cases h
        · cases h
          simp [isWide]
          omega
  · exact absurd h (map_signed_ne_integer n _ k)

/-- Whether an integer in a token is wide. -/
def Token.isWide : Token → Bool
  | .number (some (.integer n)) => Json.isWide n
  | _ => true

/-- A token of a text is wide. -/
theorem isWide_of_nextToken {cs rest : List Char} {token : Token}
    (h : nextToken cs = some (token, rest)) : token.isWide = true := by
  have hnumber (n : Numeral) : (Token.number n.number?).isWide = true := by
    cases hvalue : n.number? with
    | none => rfl
    | some value =>
        cases value with
        | float x => rfl
        | integer k => exact isWide_of_number? hvalue
  have hmark {c : Char} {t : Token} (hc : mark? c = some t) : t.isWide = true := by
    unfold mark? at hc
    repeat' split at hc
    all_goals cases hc
    all_goals rfl
  unfold nextToken at h
  split at h
  · cases h
  · cases h
    rfl
  · cases h
    rfl
  · cases h
    rfl
  · split at h
    · rename_i hc
      cases h
      exact hmark hc
    · split at h
      · obtain ⟨p, -, heq⟩ := Option.bind_eq_some_iff.1 h
        cases heq
        rfl
      · split at h
        · obtain ⟨p, -, heq⟩ := Option.bind_eq_some_iff.1 h
          cases heq
          exact hnumber _
        · split at h
          · obtain ⟨p, -, heq⟩ := Option.bind_eq_some_iff.1 h
            cases heq
            exact hnumber _
          · cases h

/-- The tokens of a text are wide. -/
theorem isWide_of_mem_tokensWithin {bound : Nat} {cs : List Char} {t : Token}
    (h : t ∈ tokensWithin bound cs) : t.isWide = true := by
  induction bound generalizing cs with
  | zero => cases h
  | succ bound ih =>
      rw [tokensWithin] at h
      split at h
      · cases h
      · split at h
        · cases List.mem_singleton.1 h
          rfl
        · rename_i hnext
          rcases List.mem_cons.1 h with rfl | hrest
          · exact isWide_of_nextToken hnext
          · exact ih hrest

/-! ## Drafts of texts -/

namespace Draft

mutual

/-- Whether the integers in a draft are wide. -/
def isWide : Draft → Bool
  | .broken | .null | .bool _ | .string _ => true
  | .number value => (Token.number value).isWide
  | .array ds _ => areWide ds
  | .object ms _ => membersWide ms

/-- Whether the integers in some items are wide. -/
def areWide : List Draft → Bool
  | [] => true
  | d :: rest => isWide d && areWide rest

/-- Whether the integers in some members are wide. -/
def membersWide : List (Option String × Draft) → Bool
  | [] => true
  | (_, d) :: rest => isWide d && membersWide rest

end

/-- Tokens whose integers are wide. -/
def TokensWide (ts : List Token) : Prop :=
  ∀ t ∈ ts, t.isWide = true

theorem TokensWide.tail {t : Token} {ts : List Token} (h : TokensWide (t :: ts)) : TokensWide ts :=
  fun u hu => h u (List.mem_cons_of_mem t hu)

/-- What is followed of wide tokens: something wide, and wide tokens behind it. -/
def FollowsWide (wide : α → Bool) (followed : α × Option (List Token)) : Prop :=
  wide followed.1 = true ∧ ∀ rest ∈ followed.2, TokensWide rest

theorem FollowsWide.stop {wide : α → Bool} {a : α} (h : wide a = true) :
    FollowsWide wide (a, none) :=
  ⟨h, fun _ hrest => nomatch hrest⟩

theorem FollowsWide.goOn {wide : α → Bool} {a : α} {rest : List Token} (h : wide a = true)
    (hrest : TokensWide rest) : FollowsWide wide (a, some rest) :=
  ⟨h, fun _ heq => Option.mem_some_iff.1 heq ▸ hrest⟩

/-- One more step of following a value. -/
theorem followsWide_value {bound : Nat}
    (hitems : ∀ ts, TokensWide ts → FollowsWide areWide (items bound ts))
    (hmembers : ∀ ts, TokensWide ts → FollowsWide membersWide (members bound ts))
    {ts : List Token} (h : TokensWide ts) : FollowsWide isWide (value (bound + 1) ts) := by
  cases ts with
  | nil => exact .stop rfl
  | cons t rest =>
      cases t with
      | null | bool | string => exact .goOn rfl h.tail
      | number => exact .goOn (h _ List.mem_cons_self) h.tail
      | closeArray | closeObject | comma | colon | bad => exact .stop rfl
      | openArray =>
          by_cases hclosed : rest.head? = some .closeArray
          · obtain ⟨more, rfl⟩ := List.head?_eq_some_iff.1 hclosed
            exact .goOn rfl h.tail.tail
          · rw [value_openArray bound hclosed]
            exact hitems rest h.tail
      | openObject =>
          by_cases hclosed : rest.head? = some .closeObject
          · obtain ⟨more, rfl⟩ := List.head?_eq_some_iff.1 hclosed
            exact .goOn rfl h.tail.tail
          · rw [value_openObject bound hclosed]
            exact hmembers rest h.tail

/-- One more step of following the items of an array. -/
theorem followsWide_items {bound : Nat}
    (hvalue : ∀ ts, TokensWide ts → FollowsWide isWide (value bound ts))
    (hitems : ∀ ts, TokensWide ts → FollowsWide areWide (items bound ts))
    {ts : List Token} (h : TokensWide ts) : FollowsWide areWide (items (bound + 1) ts) := by
  obtain ⟨hd, hafter⟩ := hvalue ts h
  rw [items]
  split
  · rename_i d rest heq
    rw [heq] at hd hafter
    obtain ⟨hds, hrest⟩ := hitems rest (hafter _ rfl).tail
    exact ⟨Bool.and_eq_true_iff.2 ⟨hd, hds⟩, hrest⟩
  · rename_i d rest heq
    rw [heq] at hd hafter
    exact .goOn (Bool.and_eq_true_iff.2 ⟨hd, rfl⟩) (hafter _ rfl).tail
  · rename_i d after _ _ heq
    rw [heq] at hd
    exact .stop (Bool.and_eq_true_iff.2 ⟨hd, rfl⟩)

/-- One more step of following the members of an object. -/
theorem followsWide_members {bound : Nat}
    (hvalue : ∀ ts, TokensWide ts → FollowsWide isWide (value bound ts))
    (hmembers : ∀ ts, TokensWide ts → FollowsWide membersWide (members bound ts))
    {ts : List Token} (h : TokensWide ts) : FollowsWide membersWide (members (bound + 1) ts) := by
  cases ts with
  | nil => exact .stop rfl
  | cons t rest =>
      cases t with
      | string name =>
          cases rest with
          | nil => exact .stop rfl
          | cons u tokens =>
              cases u with
              | colon =>
                  obtain ⟨hd, hafter⟩ := hvalue tokens h.tail.tail
                  rw [members]
                  split
                  · rename_i d rest heq
                    rw [heq] at hd hafter
                    obtain ⟨hds, hrest⟩ := hmembers rest (hafter _ rfl).tail
                    exact ⟨Bool.and_eq_true_iff.2 ⟨hd, hds⟩, hrest⟩
                  · rename_i d rest heq
                    rw [heq] at hd hafter
                    exact .goOn (Bool.and_eq_true_iff.2 ⟨hd, rfl⟩) (hafter _ rfl).tail
                  · rename_i d after _ _ heq
                    rw [heq] at hd
                    exact .stop (Bool.and_eq_true_iff.2 ⟨hd, rfl⟩)
              | _ => exact .stop rfl
      | _ => exact .stop rfl

/-- The drafts that wide tokens are followed to are wide. -/
theorem followsWide (bound : Nat) :
    (∀ ts, TokensWide ts → FollowsWide isWide (value bound ts)) ∧
    (∀ ts, TokensWide ts → FollowsWide areWide (items bound ts)) ∧
    (∀ ts, TokensWide ts → FollowsWide membersWide (members bound ts)) := by
  induction bound with
  | zero => exact ⟨fun _ _ => .stop rfl, fun _ _ => .stop rfl, fun _ _ => .stop rfl⟩
  | succ bound ih =>
      obtain ⟨hvalue, hitems, hmembers⟩ := ih
      exact ⟨fun _ => followsWide_value hitems hmembers, fun _ => followsWide_items hvalue hitems,
        fun _ => followsWide_members hvalue hmembers⟩

/-- The draft of a text is wide. -/
theorem isWide_ofTokens (cs : List Char) : (ofTokens (tokens cs)).1.isWide = true :=
  ((followsWide _).1 _ fun _ => isWide_of_mem_tokensWithin).1

end Draft

/-! ## Any values -/

/-- An origin that was entered allows for one more level than what it was entered to. -/
theorem Origin.admits_of_enter {o inner : Origin} {depth : Nat} (henter : o.enter = .ok inner)
    (h : inner.Admits depth) : o.Admits (depth + 1) := by
  cases o with
  | value => trivial
  | text levels =>
      obtain _ | _ | levels := levels
      · cases henter
      · cases henter
      · cases henter
        simp only [Admits] at h ⊢
        omega

/-- An origin that was entered to allows for what is not nested. -/
theorem Origin.admits_zero_of_enter {o inner : Origin} (henter : o.enter = .ok inner) :
    inner.Admits 0 := by
  cases o with
  | value =>
      cases henter
      trivial
  | text levels =>
      obtain _ | _ | levels := levels
      · cases henter
      · cases henter
      · cases henter
        exact Nat.succ_pos _

theorem Origin.Admits.max {o : Origin} {a b : Nat} (ha : o.Admits a) (hb : o.Admits b) :
    o.Admits (Nat.max a b) := by
  cases o with
  | value => trivial
  | text levels => exact Nat.max_lt.2 ⟨ha, hb⟩

/-- Values of which none is nested too deep for an origin. -/
theorem admits_itemsDepth {o : Origin} (ho : o.Admits 0) {vs : List Json}
    (h : ∀ v ∈ vs, o.Admits v.depth) : o.Admits (itemsDepth vs) := by
  induction vs with
  | nil => exact ho
  | cons v rest ih =>
      exact (h v List.mem_cons_self).max (ih fun w hw => h w (List.mem_cons_of_mem _ hw))

theorem admits_membersDepth {o : Origin} (ho : o.Admits 0) {ms : List (String × Json)}
    (h : ∀ m ∈ ms, o.Admits m.2.depth) : o.Admits (membersDepth ms) := by
  induction ms with
  | nil => exact ho
  | cons m rest ih =>
      exact (h m List.mem_cons_self).max (ih fun w hw => h w (List.mem_cons_of_mem _ hw))

/-- The members of an object are among those it is made of. -/
theorem mem_of_ofMembers {ms sorted : List (String × Json)} (h : ofMembers ms = .object sorted)
    {m : String × Json} (hm : m ∈ sorted) : m ∈ ms := by
  suffices hfold : ∀ acc : List (String × Json),
      m ∈ ms.foldl (fun acc m => insertEntry m.1 m.2 acc) acc → m ∈ acc ∨ m ∈ ms by
    cases h
    exact (hfold [] hm).resolve_left List.not_mem_nil
  clear h hm
  induction ms with
  | nil => exact fun _ h => .inl h
  | cons n rest ih =>
      intro acc hm
      rcases ih _ hm with hacc | hrest
      · rcases mem_insertEntry hacc with rfl | hacc
        · exact .inr List.mem_cons_self
        · exact .inl hacc
      · exact .inr (List.mem_cons_of_mem _ hrest)

/-- A value of a size that can be written and read again: its nesting is allowed, and without
floating point numbers it is canonical. -/
structure Sized (o : Origin) (v : Json) : Prop where
  depth : o.Admits v.depth
  canonical : v.isFloatFree = true → v.isCanonical = true

/-- An array of sized items is sized. -/
theorem sized_array {o inner : Origin} (henter : o.enter = .ok inner) {vs : List Json}
    (h : ∀ v ∈ vs, Sized inner v) : Sized o (.array vs) where
  depth := Origin.admits_of_enter henter <|
    admits_itemsDepth (Origin.admits_zero_of_enter henter) fun v hv => (h v hv).depth
  canonical := fun hfree =>
    areCanonical_iff.2 fun v hv => (h v hv).canonical (itemsFloatFree_iff.1 hfree v hv)

/-- An object that is made of sized members is sized. -/
theorem sized_ofMembers {o inner : Origin} (henter : o.enter = .ok inner)
    {ms : List (String × Json)} (h : ∀ m ∈ ms, Sized inner m.2) : Sized o (Json.ofMembers ms) := by
  obtain ⟨sorted, hsorted, hkeys⟩ := ofMembers_sorted ms
  have hmem : ∀ m ∈ sorted, Sized inner m.2 := fun m hm => h m (mem_of_ofMembers hsorted hm)
  rw [hsorted]
  constructor
  · exact Origin.admits_of_enter henter <|
      admits_membersDepth (Origin.admits_zero_of_enter henter) fun m hm => (hmem m hm).depth
  · intro hfree
    rw [isCanonical, Bool.and_eq_true, decide_eq_true_iff]
    have hmembers := membersFloatFree_iff.1 hfree
    exact ⟨membersCanonical_iff.2 fun m hm => (hmem m hm).canonical (hmembers m hm), hkeys⟩

namespace Reader

mutual

/-- A value that is read from a wide draft is sized. -/
theorem any_sized : (d : Draft) → d.isWide = true → ∀ {o : Origin}, o.Admits 0 →
    ∀ {v : Json}, any o d = .ok v → Sized o v
  | .broken, _, _, _, _, h | .number none, _, _, _, _, h | .string none, _, _, _, _, h => nomatch h
  | .null, _, _, ho, _, h | .bool _, _, _, ho, _, h | .string (some _), _, _, ho, _, h => by
      cases h
      exact ⟨ho, fun _ => rfl⟩
  | .number (some (.integer n)), hwide, _, ho, _, h => by
      cases h
      exact ⟨ho, fun _ => hwide⟩
  | .number (some (.float x)), _, _, ho, _, h => by
      cases h
      exact ⟨ho, fun hfree => nomatch hfree⟩
  | .array ds closed, hwide, o, _, v, h => by
      rw [any] at h
      cases henter : o.enter with
      | error e => simp [henter] at h
      | ok inner =>
          cases hitems : anyItems inner ds with
          | error e => simp [henter, hitems] at h
          | ok vs =>
              have hsized := anyItems_sized ds hwide (Origin.admits_zero_of_enter henter) hitems
              cases closed with
              | false => simp [henter, hitems] at h
              | true =>
                  simp only [henter, hitems, if_true, Except.ok.injEq] at h
                  exact h ▸ sized_array henter hsized
  | .object ms closed, hwide, o, _, v, h => by
      rw [any] at h
      cases henter : o.enter with
      | error e => simp [henter] at h
      | ok inner =>
          cases hmembers : anyMembers inner ms with
          | error e => simp [henter, hmembers] at h
          | ok vs =>
              have hsized := anyMembers_sized ms hwide (Origin.admits_zero_of_enter henter) hmembers
              cases closed with
              | false => simp [henter, hmembers] at h
              | true =>
                  simp only [henter, hmembers, if_true, Except.ok.injEq] at h
                  exact h ▸ sized_ofMembers henter hsized

/-- Items that are read from wide drafts are sized. -/
theorem anyItems_sized : (ds : List Draft) → Draft.areWide ds = true → ∀ {o : Origin},
    o.Admits 0 → ∀ {vs : List Json}, anyItems o ds = .ok vs → ∀ v ∈ vs, Sized o v
  | [], _, _, _, _, h => by
      cases h
      exact fun _ hv => nomatch hv
  | d :: rest, hwide, o, ho, vs, h => by
      rw [Draft.areWide, Bool.and_eq_true] at hwide
      rw [anyItems] at h
      cases hd : any o d with
      | error e => simp [hd] at h
      | ok v =>
          cases hrest : anyItems o rest with
          | error e => simp [hd, hrest, Except.map] at h
          | ok ws =>
              simp only [hd, hrest, Except.map, Except.ok.injEq] at h
              rw [← h]
              exact List.forall_mem_cons.2
                ⟨any_sized d hwide.1 ho hd, anyItems_sized rest hwide.2 ho hrest⟩

/-- Members that are read from wide drafts are sized. -/
theorem anyMembers_sized : (ms : List (Option String × Draft)) → Draft.membersWide ms = true →
    ∀ {o : Origin}, o.Admits 0 → ∀ {vs : List (String × Json)}, anyMembers o ms = .ok vs →
    ∀ m ∈ vs, Sized o m.2
  | [], _, _, _, _, h => by
      cases h
      exact fun _ hm => nomatch hm
  | (none, _) :: _, _, _, _, _, h => nomatch h
  | (some k, d) :: rest, hwide, o, ho, vs, h => by
      rw [Draft.membersWide, Bool.and_eq_true] at hwide
      rw [anyMembers] at h
      cases hd : any o d with
      | error e => simp [hd] at h
      | ok v =>
          cases hrest : anyMembers o rest with
          | error e => simp [hd, hrest, Except.map] at h
          | ok ws =>
              simp only [hd, hrest, Except.map, Except.ok.injEq] at h
              rw [← h]
              exact List.forall_mem_cons.2
                ⟨any_sized d hwide.1 ho hd, anyMembers_sized rest hwide.2 ho hrest⟩

end

/-! ## Readers made of others -/

/-- An integer that is read is one of its type. -/
theorem contains_of_integer {t : Text.IntType} {o : Origin} {d : Draft} {n : Int}
    (h : integer t o d = .ok n) : t.contains n = true := by
  unfold integer at h
  split at h
  · split at h
    · cases h
      assumption
    · cases h
  · unfold unexpected at h
    split at h <;> cases h

/-- A value that is not missing is read. -/
theorem of_optional {r : Reader α} {o : Origin} {d : Draft} {a : α}
    (h : optional r o d = .ok (some a)) : r o d = .ok a := by
  unfold optional at h
  split at h
  · cases h
  · cases hread : r o d with
    | error e => simp [hread, Except.map] at h
    | ok b =>
        simp only [hread, Except.map, Except.ok.injEq, Option.some.injEq] at h
        rw [h]

/-- What is taken further is read first. -/
theorem exists_of_refine {r : Reader α} {f : α → Except String β} {o : Origin} {d : Draft} {b : β}
    (h : r.refine f o d = .ok b) : ∃ a, r o d = .ok a ∧ f a = .ok b := by
  unfold refine at h
  split at h
  · cases h
  · rename_i a hread
    split at h
    · cases h
    · rename_i c hf
      cases h
      exact ⟨a, hread, hf⟩

/-- A list of any values that is read from a wide draft is a sized array. -/
theorem list_any_sized {o : Origin} {d : Draft} {vs : List Json} (hwide : d.isWide = true)
    (h : list any o d = .ok vs) : Sized o (.array vs) := by
  unfold list at h
  split at h
  · rename_i ds closed
    obtain ⟨inner, henter, h⟩ := exceptBind_eq_ok_iff.1 h
    obtain ⟨ws, heach, h⟩ := exceptBind_eq_ok_iff.1 h
    rw [each_any] at heach
    cases closed with
    | false => cases h
    | true =>
        cases h
        exact sized_array henter <|
          anyItems_sized ds hwide (Origin.admits_zero_of_enter henter) heach
  · unfold unexpected at h
    split at h <;> cases h

end Reader

/-! ## Records -/

/-- Whether a value is the one that stands for a missing field. -/
def Absence.StandsFor : Absence α → α → Prop
  | required, _ => False
  | nullable value, a | defaulted value, a => a = value

namespace Fields

/-- What there is of a field: what its reader made of a wide draft, or what stands for it. -/
def ReadsField (o : Origin) (reader : Reader α) (absence : Absence α) (a : α) : Prop :=
  absence.StandsFor a ∨ ∃ d : Draft, d.isWide = true ∧ reader o d = .ok a

/-- All fields of a record were read or are stood for. -/
def Reads (o : Origin) : {β σ : Type} → Fields β σ → β → Prop
  | _, _, nil, _ => True
  | _, _, cons _ reader absence rest, (a, b) => ReadsField o reader absence a ∧ rest.Reads o b

/-- All fields met so far were read. -/
def Met (o : Origin) : {β σ : Type} → Fields β σ → σ → Prop
  | _, _, nil, _ => True
  | _, _, cons _ reader _ rest, (slot, slots) =>
    (∀ a ∈ slot, ∃ d : Draft, d.isWide = true ∧ reader o d = .ok a) ∧ rest.Met o slots

theorem met_unset (o : Origin) (fs : Fields β σ) : fs.Met o fs.unset := by
  induction fs with
  | nil => trivial
  | cons name reader absence rest ih => exact ⟨fun _ ha => (nomatch ha), ih⟩

/-- One more field that is met was read. -/
theorem Met.assign {o : Origin} {fs : Fields β σ} {slots filled : σ} {k : String} {d : Draft}
    (h : fs.Met o slots) (hwide : d.isWide = true)
    (hassign : fs.assign k o d slots = some (.ok filled)) : fs.Met o filled := by
  induction fs with
  | nil => cases hassign
  | cons name reader absence rest ih =>
      obtain ⟨slot, slots⟩ := slots
      obtain ⟨hslot, hslots⟩ := h
      by_cases hname : k = name
      · subst hname
        cases slot with
        | some a =>
            have hduplicate : (cons k reader absence rest).assign k o d (some a, slots) =
                some (.error (.mismatch (.duplicateField k))) := if_pos rfl
            cases hduplicate.symm.trans hassign
        | none =>
            rw [assign_cons_self] at hassign
            cases hread : reader o d with
            | error e => simp [hread, Except.map] at hassign
            | ok a =>
                simp only [hread, Except.map, Option.some.injEq, Except.ok.injEq] at hassign
                rw [← hassign]
                refine ⟨fun b hb => ⟨d, hwide, ?_⟩, hslots⟩
                rw [hread, Option.mem_some_iff.1 hb]
      · rw [assign_cons_of_ne hname] at hassign
        obtain ⟨r, hr, heq⟩ := Option.map_eq_some_iff.1 hassign
        cases r with
        | error e => cases heq
        | ok more =>
            cases heq
            exact ⟨hslot, ih hslots hr⟩

/-- The fields that the members of an object fill were read. -/
theorem Met.readMembers {o : Origin} {fs : Fields β σ} {ms : List (Option String × Draft)}
    {slots filled : σ} (h : fs.Met o slots) (hwide : Draft.membersWide ms = true)
    (hread : fs.readMembers o ms slots = .ok filled) : fs.Met o filled := by
  induction ms generalizing slots with
  | nil =>
      cases hread
      exact h
  | cons m rest ih =>
      obtain ⟨k, d⟩ := m
      rw [Draft.membersWide, Bool.and_eq_true] at hwide
      cases k with
      | none => cases hread
      | some k =>
          rw [Fields.readMembers] at hread
          split at hread
          · cases hread
          · rename_i next hassign
            exact ih (h.assign hwide.1 hassign) hwide.2 hread
          · split at hread
            · exact ih h hwide.2 hread
            · cases hread

/-- A record that is complete has fields that were read or are stood for. -/
theorem Met.reads {o : Origin} {fs : Fields β σ} {slots : σ} {record : β} (h : fs.Met o slots)
    (hcomplete : fs.complete slots = .ok record) : fs.Reads o record := by
  induction fs with
  | nil => trivial
  | cons name reader absence rest ih =>
      obtain ⟨slot, slots⟩ := slots
      obtain ⟨hslot, hslots⟩ := h
      obtain ⟨a, b⟩ := record
      unfold complete at hcomplete
      split at hcomplete
      · rename_i a' _
        obtain ⟨b', hrest, heq⟩ := map_eq_ok_iff.1 hcomplete
        cases heq
        exact ⟨.inr (hslot a rfl), ih hslots hrest⟩
      · cases hcomplete
      · obtain ⟨b', hrest, heq⟩ := map_eq_ok_iff.1 hcomplete
        cases heq
        exact ⟨.inl rfl, ih hslots hrest⟩
      · obtain ⟨b', hrest, heq⟩ := map_eq_ok_iff.1 hcomplete
        cases heq
        exact ⟨.inl rfl, ih hslots hrest⟩

/-- A record that the items of an array are read as has such fields, too. -/
theorem reads_of_readItems {o : Origin} {closed : Bool} {expected : String} {position : Nat}
    {fs : Fields β σ} {ds extra : List Draft} {record : β} (hwide : Draft.areWide ds = true)
    (h : readItems o closed expected position fs ds = .ok (record, extra)) :
    fs.Reads o record := by
  induction fs generalizing position ds with
  | nil => trivial
  | cons name reader absence rest ih =>
      obtain ⟨a, b⟩ := record
      unfold readItems at h
      split at h
      · rename_i d more
        rw [Draft.areWide, Bool.and_eq_true] at hwide
        split at h
        · cases h
        · rename_i a' hread
          obtain ⟨r, hrest, heq⟩ := map_eq_ok_iff.1 h
          cases heq
          exact ⟨.inr ⟨d, hwide.1, hread⟩, ih hwide.2 hrest⟩
      · split at h
        · obtain ⟨r, hrest, heq⟩ := map_eq_ok_iff.1 h
          cases heq
          exact ⟨.inl rfl, ih hwide hrest⟩
        · cases h
      · cases h

/-- A record that is read from a wide draft has fields that were read or are stood for. -/
theorem reads_of_read {name : String} {fs : Fields β σ} {o : Origin} {d : Draft} {record : β}
    (hwide : d.isWide = true) (h : fs.read name o d = .ok record) :
    ∃ inner, o.enter = .ok inner ∧ fs.Reads inner record := by
  unfold read at h
  split at h
  · rename_i ms closed
    obtain ⟨inner, henter, h⟩ := exceptBind_eq_ok_iff.1 h
    obtain ⟨slots, hslots, h⟩ := exceptBind_eq_ok_iff.1 h
    cases closed with
    | false => cases h
    | true => exact ⟨inner, henter, ((met_unset inner fs).readMembers hwide hslots).reads h⟩
  · rename_i ds closed
    obtain ⟨inner, henter, h⟩ := exceptBind_eq_ok_iff.1 h
    obtain ⟨⟨found, extra⟩, hitems, h⟩ := exceptBind_eq_ok_iff.1 h
    refine ⟨inner, henter, ?_⟩
    have hfound : found = record := by
      simp only at h
      split at h
      · exact Except.ok.inj h
      · cases h
      · cases h
    exact hfound ▸ reads_of_readItems hwide hitems
  · unfold Reader.unexpected at h
    split at h <;> cases h

/-- What is made of a record is made of fields that were read or are stood for. -/
theorem exists_record {γ : Type} {name : String} {fs : Fields β σ} {f : β → Except String γ}
    {o : Origin} {d : Draft} {c : γ} (hwide : d.isWide = true)
    (h : (fs.read name).refine f o d = .ok c) :
    ∃ inner record, o.enter = .ok inner ∧ fs.Reads inner record ∧ f record = .ok c := by
  obtain ⟨record, hread, hf⟩ := Reader.exists_of_refine h
  obtain ⟨inner, henter, hreads⟩ := reads_of_read hwide hread
  exact ⟨inner, record, henter, hreads, hf⟩

/-- A field that has to be there was read. -/
theorem exists_of_readsField {o : Origin} {r : Reader α} {a : α}
    (h : ReadsField o r .required a) : ∃ d : Draft, d.isWide = true ∧ r o d = .ok a :=
  h.resolve_left id

/-- So was a field that may be missing, if it is there. -/
theorem exists_of_readsField_optional {o : Origin} {r : Reader α} {absence : Absence (Option α)}
    {x : Option α} (h : ReadsField o (Reader.optional r) absence x)
    (hmissing : ∀ y, absence.StandsFor y → y = none) :
    ∀ a ∈ x, ∃ d : Draft, d.isWide = true ∧ r o d = .ok a := by
  intro a ha
  rcases h with hstands | ⟨d, hwide, hread⟩
  · rw [hmissing x hstands] at ha
    cases ha
  · rw [Option.mem_def.1 ha] at hread
    exact ⟨d, hwide, Reader.of_optional hread⟩

end Fields

/-! ## Texts -/

/-- What is read from a text is read from a wide draft. -/
theorem exists_draft_of_readText {r : Reader α} {s : String} {a : α} (h : readText r s = .ok a) :
    ∃ d : Draft, d.isWide = true ∧ r (.text nestingLimit) d = .ok a := by
  refine ⟨(Draft.ofTokens (tokens s.toList)).1, Draft.isWide_ofTokens _, ?_⟩
  unfold readText at h
  simp only at h
  split at h
  · cases h
  · rename_i b hread
    split at h
    · cases h
      exact hread
    · cases h

end Json
end MessageQueue
