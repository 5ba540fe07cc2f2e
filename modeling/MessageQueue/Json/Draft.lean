import MessageQueue.Json.Token

/-!
# Drafts

A draft is the structure of a JSON text as far as it can be followed.  Where the text
breaks off or goes wrong, the array or object that was being read stays open and what was
expected is `broken`, so a reader meets what stands before the fault first and the fault
in its place.

Main results:

- Theorem `ofJson_isWhole`: the draft of a value has no fault in it.
-/

namespace MessageQueue
namespace Json

/-- The structure of a JSON text, with faults in it. -/
inductive Draft where
  | broken
  | null
  | bool (b : Bool)
  | number (value : Option Number)
  | string (text : Option String)
  | array (items : List Draft) (closed : Bool)
  | object (members : List (Option String × Draft)) (closed : Bool)

instance : Inhabited Draft := ⟨.broken⟩

namespace Draft

/-! ## Following a text -/

/-- A draft with the tokens after it, or without them once a fault was met. -/
abbrev Followed := Draft × Option (List Token)

mutual

/-- Follows one value. -/
def value : Nat → List Token → Followed
  | 0, _ => (.broken, none)
  | _ + 1, .null :: rest => (.null, some rest)
  | _ + 1, .bool b :: rest => (.bool b, some rest)
  | _ + 1, .number n :: rest => (.number n, some rest)
  | _ + 1, .string s :: rest => (.string s, some rest)
  | _ + 1, .openArray :: .closeArray :: rest => (.array [] true, some rest)
  | bound + 1, .openArray :: rest =>
    match items bound rest with
    | (ds, after) => (.array ds after.isSome, after)
  | _ + 1, .openObject :: .closeObject :: rest => (.object [] true, some rest)
  | bound + 1, .openObject :: rest =>
    match members bound rest with
    | (ms, after) => (.object ms after.isSome, after)
  | _ + 1, _ => (.broken, none)

/-- Follows the items of an array up to its end. -/
def items : Nat → List Token → List Draft × Option (List Token)
  | 0, _ => ([], none)
  | bound + 1, tokens =>
    match value bound tokens with
    | (d, some (.comma :: rest)) =>
      match items bound rest with
      | (ds, after) => (d :: ds, after)
    | (d, some (.closeArray :: rest)) => ([d], some rest)
    | (d, _) => ([d], none)

/-- Follows the members of an object up to its end. -/
def members : Nat → List Token → List (Option String × Draft) × Option (List Token)
  | 0, _ => ([], none)
  | bound + 1, .string name :: .colon :: tokens =>
    match value bound tokens with
    | (d, some (.comma :: rest)) =>
      match members bound rest with
      | (ms, after) => ((name, d) :: ms, after)
    | (d, some (.closeObject :: rest)) => ([(name, d)], some rest)
    | (d, _) => ([(name, d)], none)
  | _ + 1, .string name :: _ => ([(name, .broken)], none)
  | _ + 1, _ => ([], none)

end

/-- Follows the first value of a text; twice its token count bounds the steps. -/
def ofTokens (ts : List Token) : Followed :=
  value (2 * ts.length + 1) ts

/-! ## Values as drafts -/

mutual

/-- The draft of a value. -/
def ofJson : Json → Draft
  | .null => .null
  | .bool b => .bool b
  | .number n => .number (some n)
  | .string s => .string (some s)
  | .array vs => .array (ofItems vs) true
  | .object ms => .object (ofMembers ms) true

/-- The drafts of the items of an array. -/
def ofItems : List Json → List Draft
  | [] => []
  | v :: rest => ofJson v :: ofItems rest

/-- The drafts of the members of an object. -/
def ofMembers : List (String × Json) → List (Option String × Draft)
  | [] => []
  | (k, v) :: rest => (some k, ofJson v) :: ofMembers rest

end

mutual

/-- Whether the structure has no fault; numbers and strings need not have a value. -/
def isWhole : Draft → Bool
  | .broken => false
  | .null | .bool _ | .number _ | .string _ => true
  | .array ds closed => areWhole ds && closed
  | .object ms closed => membersWhole ms && closed

/-- Whether no item has a fault. -/
def areWhole : List Draft → Bool
  | [] => true
  | d :: rest => isWhole d && areWhole rest

/-- Whether no member has a fault. -/
def membersWhole : List (Option String × Draft) → Bool
  | [] => true
  | (_, d) :: rest => isWhole d && membersWhole rest

end

mutual

/-- The draft of a value has no fault in it. -/
theorem ofJson_isWhole : (v : Json) → (ofJson v).isWhole = true
  | .null | .bool _ | .number _ | .string _ => rfl
  | .array vs => by simp [ofJson, isWhole, ofItems_areWhole vs]
  | .object ms => by simp [ofJson, isWhole, ofMembers_membersWhole ms]

theorem ofItems_areWhole : (vs : List Json) → areWhole (ofItems vs) = true
  | [] => rfl
  | v :: rest => by simp [ofItems, areWhole, ofJson_isWhole v, ofItems_areWhole rest]

theorem ofMembers_membersWhole :
    (ms : List (String × Json)) → membersWhole (ofMembers ms) = true
  | [] => rfl
  | (_, v) :: rest => by
    simp [ofMembers, membersWhole, ofJson_isWhole v, ofMembers_membersWhole rest]

end

end Draft
end Json
end MessageQueue
