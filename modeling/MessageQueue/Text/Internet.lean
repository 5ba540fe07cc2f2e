import MessageQueue.Text.Octets

/-!
# Internet addresses

The texts of addresses of four octets and of eight groups of sixteen bits.  In the long form
one run of zero groups may be left out, and the last two groups may be written as a short
address.  A long address is shown without its longest run of two or more zero groups.

Main results:

- Theorem `length_eq_of_readLong`: a long address has eight groups.
-/

namespace MessageQueue
namespace Text

/-! ## Reading -/

/-- Splits a text at every occurrence of a character. -/
def splitAt (separator : Char) : List Char → List (List Char)
  | [] => [[]]
  | c :: rest =>
    if c = separator then [] :: splitAt separator rest
    else
      match splitAt separator rest with
      | [] => [[c]]
      | piece :: pieces => (c :: piece) :: pieces

/-- Reads one to three digits without a leading zero as a number of eight bits. -/
def readOctet (cs : List Char) : Option Nat :=
  let value := cs.foldl (fun n c => n * 10 + (c.toNat - 48)) 0
  if cs ≠ [] && cs.all Char.isDigit && (cs.length = 1 || cs.head? ≠ some '0') && value ≤ 255 then
    some value
  else none

/-- Reads four octets between dots. -/
def readShort (cs : List Char) : Option (List Nat) :=
  match splitAt '.' cs with
  | [a, b, c, d] => [a, b, c, d].mapM readOctet
  | _ => none

/-- Reads one to four hexadecimal digits. -/
def readGroup (cs : List Char) : Option Nat :=
  if cs = [] || 4 < cs.length then none
  else (cs.mapM hexValue?).map fun ds => ds.foldl (fun n d => n * 16 + d) 0

/-- Reads groups between colons; the last may be a short address in place of two groups. -/
def readGroups (shortLast : Bool) : List (List Char) → Option (List Nat)
  | [] => some []
  | [last] =>
    match readGroup last with
    | some g => some [g]
    | none =>
      if shortLast then
        match readShort last with
        | some [a, b, c, d] => some [a * 256 + b, c * 256 + d]
        | _ => none
      else none
  | piece :: rest => do
    let g ← readGroup piece
    let gs ← readGroups shortLast rest
    return g :: gs

/-- What stands before and after the first two colons in a row. -/
def cutAtGap : List Char → Option (List Char × List Char)
  | ':' :: ':' :: rest => some ([], rest)
  | c :: rest => (cutAtGap rest).map fun (before, after) => (c :: before, after)
  | [] => none

/-- Reads what stands on one side of a gap. -/
def readSide (shortLast : Bool) (cs : List Char) : Option (List Nat) :=
  if cs = [] then some [] else readGroups shortLast (splitAt ':' cs)

/-- Eight groups, or fewer with a gap that stands for one or more zeros. -/
def fillGap (before after : List Nat) : Option (List Nat) :=
  if before.length + after.length < 8 then
    some (before ++ List.replicate (8 - (before.length + after.length)) 0 ++ after)
  else none

/-- Reads the eight groups of a long address. -/
def readLong (cs : List Char) : Option (List Nat) :=
  match cutAtGap cs with
  | none => (readSide true cs).filter (·.length = 8)
  | some (before, after) => do
    fillGap (← readSide false before) (← readSide true after)

/-- A long address has eight groups. -/
theorem length_eq_of_readLong {cs : List Char} {gs : List Nat} (h : readLong cs = some gs) :
    gs.length = 8 := by
  unfold readLong at h
  split at h
  · simpa using (Option.filter_eq_some_iff.1 h).2
  · simp only [Option.bind_eq_bind, Option.bind_eq_some_iff] at h
    obtain ⟨before, -, after, -, h⟩ := h
    unfold fillGap at h
    split at h
    · cases h
      simp
      omega
    · cases h

/-- Whether a text is an address of either form. -/
def isInternetAddress (s : String) : Bool :=
  (readShort s.toList).isSome || (readLong s.toList).isSome

/-! ## Showing -/

/-- The text of groups with colons between them. -/
def groupsText (gs : List Nat) : List Char :=
  [':'].intercalate (gs.map (Nat.toDigits 16))

/-- How many groups are zero before the first that is not. -/
def zeroRun (gs : List Nat) : Nat :=
  (gs.takeWhile (· = 0)).length

/-- The length and the place of the first of the longest runs of zeros. -/
def longestRun : (place : Nat) → List Nat → Nat × Nat
  | _, [] => (0, 0)
  | place, g :: rest =>
    let here := zeroRun (g :: rest)
    let later := longestRun (place + 1) rest
    if here = 0 || here < later.1 then later else (here, place)

/-- The text of a long address. -/
def longText (gs : List Nat) : List Char :=
  let (length, place) := longestRun 0 gs
  if length < 2 then groupsText gs
  else groupsText (gs.take place) ++ [':', ':'] ++ groupsText (gs.drop (place + length))

end Text
end MessageQueue
