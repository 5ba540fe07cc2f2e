import MessageQueue.Message
import MessageQueue.Text.Table

/-!
# What commands print

Tables and lines with styles, and troubles with their causes.  Styles are written only when
colors are wanted.

Main results:

- Theorem `paint_plain`: without colors a line is printed as it is.
-/

namespace MessageQueue
namespace Command

/-! ## Styles -/

/-- How a text is set off. -/
inductive Style where
  | success
  | notice
  | title
  | strong
  | faint
deriving DecidableEq, Repr

/-- The codes that switch a style on. -/
def Style.codes : Style → String
  | success => "1;32"
  | notice => "33"
  | title => "1;36"
  | strong => "1"
  | faint => "2"

/-- A text in a style. -/
def paint (colors : Bool) (style : Style) (s : String) : String :=
  if colors then "\x1b[" ++ style.codes ++ "m" ++ s ++ "\x1b[0m" else s

/-- Without colors a text is printed as it is. -/
@[simp]
theorem paint_plain (style : Style) (s : String) : paint false style s = s := rfl

/-- Whether colors are wanted: forced ones always, others only on a terminal and only when they are
not switched off. -/
def wantsColors (lookup : String → Option String) (terminal : Bool) : Bool :=
  if (lookup "CLICOLOR_FORCE").any (· != "0") then true
  else if (lookup "NO_COLOR").isSome then false
  else (lookup "CLICOLOR").all (· != "0") && terminal

/-! ## Views -/

/-- Lines with an end to each. -/
def linesText (lines : List String) : String :=
  String.join (lines.map (· ++ "\n"))

/-- The cells of a message. -/
def messageCells (m : Message Json) : List String :=
  [toString m.id, toString m.readCount, Time.offsetText m.enqueuedAt, Time.offsetText m.visibleAt,
    Json.text m.payload]

/-- Messages as a table, or the notice that there are none. -/
def messagesText (colors : Bool) (messages : List (Message Json)) : String :=
  if messages.isEmpty then linesText [paint colors .notice "No visible messages"]
  else linesText [Text.table ["msg_id", "read_ct", "enqueued_at", "vt", "message"]
    (messages.map messageCells)]

/-- Queues as a table, or the notice that there are none. -/
def queuesText (colors : Bool) (queues : List QueueMeta) : String :=
  if queues.isEmpty then linesText [paint colors .notice "No queues"]
  else linesText [Text.table ["queue_name", "created_at"]
    (queues.map fun q => [q.queueName, Time.offsetText q.createdAt])]

/-- An age in seconds, or a hyphen when there is none. -/
def ageText (age : Option Int) : String :=
  (age.map toString).getD "-"

/-- Metrics on a few lines. -/
def metricsText (colors : Bool) (m : QueueMetrics) : String :=
  let row := fun label value => "  " ++ paint colors .strong label ++ " " ++ value
  linesText [paint colors .title ("Queue " ++ m.queueName), "",
    row "Length:" (toString m.queueLength), row "Newest age (s):" (ageText m.newestAge),
    row "Oldest age (s):" (ageText m.oldestAge)]

/-- The notice that something was done. -/
def doneText (colors : Bool) (what : String) : String :=
  linesText [paint colors .success ("✓ " ++ what)]

/-! ## Troubles -/

/-- Why a command fails: what was attempted, then what came in between. -/
structure Trouble where
  summary : String
  causes : List String
deriving DecidableEq, Repr

namespace Trouble

/-- The trouble of a single message. -/
def of (summary : String) : Trouble := ⟨summary, []⟩

/-- The trouble seen from a wider view. -/
def within (t : Trouble) (context : String) : Trouble := ⟨context, t.summary :: t.causes⟩

/-- A text behind a lead, with further lines indented as deep. -/
def indented (lead : String) (s : String) : String :=
  lead ++ String.ofList (s.toList.flatMap fun c =>
    if c = '\n' then '\n' :: List.replicate lead.length ' ' else [c])

/-- The number of a cause, right aligned. -/
def causeLead (n : Nat) : String :=
  let digits := toString n
  Text.copies (5 - digits.length) ' ' ++ digits ++ ": "

/-- The lines of causes with their numbers. -/
def numbered : (n : Nat) → List String → List String
  | _, [] => []
  | n, cause :: rest => indented (causeLead n) cause :: numbered (n + 1) rest

/-- The trouble as it is printed; several causes are numbered. -/
def text (t : Trouble) : String :=
  let head := "Error: " ++ t.summary
  match t.causes with
  | [] => linesText [head]
  | [cause] => linesText [head, "", "Caused by:", indented "    " cause]
  | causes => linesText ([head, "", "Caused by:"] ++ numbered 0 causes)

end Trouble
end Command
end MessageQueue
