import MessageQueue.SortedMap

/-!
# JSON values

The values of JSON with integers and floating point numbers kept apart: `1` and `1.0`
are different values.  Objects list their members; the canonical ones have strictly
ascending names, which is also the order of the UTF-8 bytes of the names.

Main results:

- Theorem `ofMembers_sorted`: a list of members, later ones winning, has a canonical
  object.
-/

namespace MessageQueue

/-- A number of JSON. -/
inductive Number where
  | integer (n : Int)
  | float (x : Float)
deriving DecidableEq

/-- A JSON value. -/
inductive Json where
  | null
  | bool (b : Bool)
  | number (n : Number)
  | string (s : String)
  | array (items : List Json)
  | object (members : List (String × Json))

namespace Json

/-- The value of an integer. -/
abbrev int (n : Int) : Json := .number (.integer n)

/-- The value of a floating point number. -/
abbrev float (x : Float) : Json := .number (.float x)

instance : Inhabited Json := ⟨.null⟩

/-! ## Equality -/

mutual

/-- Decides whether two values are the same. -/
def decEq : (a b : Json) → Decidable (a = b)
  | .null, .null => isTrue rfl
  | .bool a, .bool b => decidable_of_iff (a = b) (by simp)
  | .number a, .number b => decidable_of_iff (a = b) (by simp)
  | .string a, .string b => decidable_of_iff (a = b) (by simp)
  | .array a, .array b =>
    match decEqItems a b with
    | isTrue h => isTrue (by rw [h])
    | isFalse h => isFalse (by simpa using h)
  | .object a, .object b =>
    match decEqMembers a b with
    | isTrue h => isTrue (by rw [h])
    | isFalse h => isFalse (by simpa using h)
  | .null, .bool _ | .null, .number _ | .null, .string _ | .null, .array _ | .null, .object _ =>
    isFalse (by simp)
  | .bool _, .null | .bool _, .number _ | .bool _, .string _ | .bool _, .array _
  | .bool _, .object _ => isFalse (by simp)
  | .number _, .null | .number _, .bool _ | .number _, .string _ | .number _, .array _
  | .number _, .object _ => isFalse (by simp)
  | .string _, .null | .string _, .bool _ | .string _, .number _ | .string _, .array _
  | .string _, .object _ => isFalse (by simp)
  | .array _, .null | .array _, .bool _ | .array _, .number _ | .array _, .string _
  | .array _, .object _ => isFalse (by simp)
  | .object _, .null | .object _, .bool _ | .object _, .number _ | .object _, .string _
  | .object _, .array _ => isFalse (by simp)

/-- Decides whether two lists of items are the same. -/
def decEqItems : (a b : List Json) → Decidable (a = b)
  | [], [] => isTrue rfl
  | [], _ :: _ | _ :: _, [] => isFalse (by simp)
  | a :: as, b :: bs =>
    match decEq a b, decEqItems as bs with
    | isTrue h, isTrue hs => isTrue (by rw [h, hs])
    | isFalse h, _ => isFalse (by simp [h])
    | _, isFalse hs => isFalse (by simp [hs])

/-- Decides whether two lists of members are the same. -/
def decEqMembers : (a b : List (String × Json)) → Decidable (a = b)
  | [], [] => isTrue rfl
  | [], _ :: _ | _ :: _, [] => isFalse (by simp)
  | (k, a) :: as, (l, b) :: bs =>
    if hk : k = l then
      match decEq a b, decEqMembers as bs with
      | isTrue h, isTrue hs => isTrue (by rw [hk, h, hs])
      | isFalse h, _ => isFalse (by simp [h])
      | _, isFalse hs => isFalse (by simp [hs])
    else isFalse (by simp [hk])

end

instance : DecidableEq Json := decEq

/-! ## Objects -/

/-- The object of some members: names ascend, and of equal names the last one counts. -/
def ofMembers (members : List (String × Json)) : Json :=
  .object (members.foldl (fun acc m => insertEntry m.1 m.2 acc) [])

/-- The value of the first member with a name. -/
def member? (name : String) : Json → Option Json
  | .object members => members.lookup name
  | _ => none

/-- Members given in any order, later ones winning, make a canonical object. -/
theorem ofMembers_sorted (members : List (String × Json)) :
    ∃ sorted, ofMembers members = .object sorted ∧ SortedKeys sorted := by
  refine ⟨_, rfl, ?_⟩
  suffices h : ∀ acc : List (String × Json), SortedKeys acc →
      SortedKeys (members.foldl (fun acc m => insertEntry m.1 m.2 acc) acc) from
    h [] List.Pairwise.nil
  induction members with
  | nil => exact fun _ h => h
  | cons m rest ih => exact fun acc h => ih _ (h.insert m.1 m.2)

/-! ## Canonical values -/

/-- The integers that are read as integers. -/
def isWide (n : Int) : Bool :=
  -9223372036854775808 ≤ n && n ≤ 18446744073709551615

mutual

/-- Whether a value can come out of a text: integers lie in −2⁶³ to 2⁶⁴ − 1, floating point
numbers are finite, and the names of every object strictly ascend. -/
def isCanonical : Json → Bool
  | .null | .bool _ | .string _ => true
  | .number (.integer n) => isWide n
  | .number (.float x) => x.isFinite
  | .array items => areCanonical items
  | .object members =>
    membersCanonical members && decide (members.Pairwise fun a b => a.1 < b.1)

/-- Whether every item of an array is canonical. -/
def areCanonical : List Json → Bool
  | [] => true
  | v :: rest => isCanonical v && areCanonical rest

/-- Whether every value of an object is canonical. -/
def membersCanonical : List (String × Json) → Bool
  | [] => true
  | (_, v) :: rest => isCanonical v && membersCanonical rest

end

mutual

/-- How deep arrays and objects are nested in a value. -/
def depth : Json → Nat
  | .null | .bool _ | .number _ | .string _ => 0
  | .array items => itemsDepth items + 1
  | .object members => membersDepth members + 1

/-- The greatest depth of the items of an array. -/
def itemsDepth : List Json → Nat
  | [] => 0
  | v :: rest => max (depth v) (itemsDepth rest)

/-- The greatest depth of the values of an object. -/
def membersDepth : List (String × Json) → Nat
  | [] => 0
  | (_, v) :: rest => max (depth v) (membersDepth rest)

end

mutual

/-- Whether a value has no floating point number in it. -/
def isFloatFree : Json → Bool
  | .null | .bool _ | .string _ | .number (.integer _) => true
  | .number (.float _) => false
  | .array items => itemsFloatFree items
  | .object members => membersFloatFree members

/-- Whether no item of an array has a floating point number in it. -/
def itemsFloatFree : List Json → Bool
  | [] => true
  | v :: rest => isFloatFree v && itemsFloatFree rest

/-- Whether no value of an object has a floating point number in it. -/
def membersFloatFree : List (String × Json) → Bool
  | [] => true
  | (_, v) :: rest => isFloatFree v && membersFloatFree rest

end

end Json
end MessageQueue
