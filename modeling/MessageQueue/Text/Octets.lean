/-!
# Texts from octets

Texts whose octets are given as such or behind percent signs.  Octets are read as UTF-8 from
the left, a character at a time; a faulty sequence ends where its next octet cannot go on.

Main results:

- Theorem `percentDecode_plain`: without percent signs a text stands for its own octets.
-/

namespace MessageQueue
namespace Text

/-! ## UTF-8 -/

/-- What stands at the start of some octets. -/
inductive OctetHead where
  | char (c : Char) (rest : List UInt8)
  | faulty (length : Nat) (rest : List UInt8)
  | cutShort
deriving DecidableEq

/-- How a character goes on after its first octet: the bits so far, how many octets are still
to come, and the bounds on the next one. -/
structure OctetLead where
  bits : Nat
  pending : Nat
  lowest : Nat
  highest : Nat
deriving DecidableEq, Repr

/-- How a character with a given first octet goes on; `none` when no character starts so. -/
def OctetLead.of? (b : Nat) : Option OctetLead :=
  if b < 0x80 then some ⟨b, 0, 0x80, 0xBF⟩
  else if b < 0xC2 then none
  else if b < 0xE0 then some ⟨b - 0xC0, 1, 0x80, 0xBF⟩
  else if b < 0xF0 then
    some ⟨b - 0xE0, 2, if b = 0xE0 then 0xA0 else 0x80, if b = 0xED then 0x9F else 0xBF⟩
  else if b < 0xF5 then
    some ⟨b - 0xF0, 3, if b = 0xF0 then 0x90 else 0x80, if b = 0xF4 then 0x8F else 0xBF⟩
  else none

/-- Reads the octets of a character after its first `consumed` ones. -/
def readPending (consumed bits lowest highest : Nat) : Nat → List UInt8 → OctetHead
  | 0, bs => .char (Char.ofNat bits) bs
  | _ + 1, [] => .cutShort
  | n + 1, b :: rest =>
    if lowest ≤ b.toNat && b.toNat ≤ highest then
      readPending (consumed + 1) (bits * 64 + (b.toNat - 0x80)) 0x80 0xBF n rest
    else .faulty consumed (b :: rest)

/-- What stands at the start of an octet and some more. -/
def octetHead (b : UInt8) (rest : List UInt8) : OctetHead :=
  match OctetLead.of? b.toNat with
  | none => .faulty 1 rest
  | some l => readPending 1 l.bits l.lowest l.highest l.pending rest

/-- Why octets are no text. -/
inductive OctetError where
  | faulty (length index : Nat)
  | cutShort (index : Nat)
deriving DecidableEq, Repr

/-- The wording of an octet error. -/
def OctetError.message : OctetError → String
  | faulty length index =>
    s!"invalid utf-8 sequence of {length} bytes from index {index}"
  | cutShort index => s!"incomplete utf-8 byte sequence from index {index}"

/-- Reads octets from an index on; every step takes at least one of at most `fuel` octets. -/
def readOctetsFrom : (fuel index : Nat) → List UInt8 → Except OctetError (List Char)
  | _, _, [] | 0, _, _ => .ok []
  | fuel + 1, index, b :: rest =>
    match octetHead b rest with
    | .char c more => (readOctetsFrom fuel (index + c.utf8Size) more).map (c :: ·)
    | .faulty length _ => .error (.faulty length index)
    | .cutShort => .error (.cutShort index)

/-- The text of some octets. -/
def readOctets (bs : List UInt8) : Except OctetError String :=
  (readOctetsFrom bs.length 0 bs).map String.ofList

/-- Reads octets with a replacement character for every faulty sequence. -/
def mendOctetsFrom : (fuel : Nat) → List UInt8 → List Char
  | _, [] | 0, _ => []
  | fuel + 1, b :: rest =>
    match octetHead b rest with
    | .char c more => c :: mendOctetsFrom fuel more
    | .faulty _ more => '\uFFFD' :: mendOctetsFrom fuel more
    | .cutShort => ['\uFFFD']

/-- The text of some octets, faulty sequences replaced. -/
def mendOctets (bs : List UInt8) : String :=
  String.ofList (mendOctetsFrom bs.length bs)

/-! ## Percent signs -/

/-- The value of a hexadecimal digit. -/
def hexValue? (c : Char) : Option Nat :=
  if c.isDigit then some (c.toNat - 48)
  else if 'a' ≤ c && c ≤ 'f' then some (c.toNat - 87)
  else if 'A' ≤ c && c ≤ 'F' then some (c.toNat - 55)
  else none

/-- The octets of a character. -/
def charOctets (c : Char) : List UInt8 :=
  String.utf8EncodeChar c

/-- The octets that a text stands for: a percent sign and two hexadecimal digits are one octet,
and every other character its own octets. -/
def percentDecode : List Char → List UInt8
  | '%' :: a :: b :: rest =>
    match hexValue? a, hexValue? b with
    | some x, some y => UInt8.ofNat (x * 16 + y) :: percentDecode rest
    | _, _ => 0x25 :: percentDecode (a :: b :: rest)
  | c :: rest => charOctets c ++ percentDecode rest
  | [] => []

/-- Without percent signs a text stands for its own octets. -/
theorem percentDecode_plain {cs : List Char} (h : '%' ∉ cs) :
    percentDecode cs = cs.flatMap charOctets := by
  induction cs with
  | nil => rfl
  | cons c rest ih =>
    have hc : c ≠ '%' := fun e => h (e ▸ List.mem_cons_self)
    have hrest : '%' ∉ rest := fun m => h (List.mem_cons_of_mem _ m)
    rw [percentDecode.eq_2 c rest (by rintro a b more rfl; exact absurd rfl hc), ih hrest]
    rfl

/-- The controls and everything beyond ASCII as percent signs and digits. -/
def percentEncode (c : Char) : List Char :=
  if 0x20 ≤ c.toNat && c.toNat < 0x7F then [c]
  else (charOctets c).flatMap fun b =>
    ['%', (Nat.digitChar (b.toNat / 16)).toUpper, (Nat.digitChar (b.toNat % 16)).toUpper]

end Text
end MessageQueue
