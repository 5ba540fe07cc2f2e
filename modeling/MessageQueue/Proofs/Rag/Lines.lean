import MessageQueue.Rag.Document

/-!
# Lines of a file

Every text is a sequence of lines, each ended by a line feed or by a carriage return and a line
feed, and of what stands behind the last end.  A line holds no line feed, and one that a line feed
alone ends has no carriage return at its end, so that the lines are those that the text is split
into, blank ones among them.

Main results:

- Theorem `linesOf_fileOf`: the lines of a file that was put together from lines.
- Theorem `isLinesOf_linesOf`: every text is put together from its lines.
-/

namespace MessageQueue

/-! ## Splitting at line feeds -/

theorem splitLines_feed (rest : List Char) : splitLines ('\n' :: rest) = [] :: splitLines rest := by
  rw [splitLines, if_pos rfl]

/-- There is a first line in every text. -/
theorem exists_splitLines (cs : List Char) : ∃ line lines, splitLines cs = line :: lines := by
  cases cs with
  | nil => exact ⟨[], [], rfl⟩
  | cons c rest =>
      rw [splitLines]
      split
      · exact ⟨_, _, rfl⟩
      · split <;> exact ⟨_, _, rfl⟩

/-- Any other character belongs to the first line. -/
theorem splitLines_cons {c : Char} {cs line : List Char} {lines : List (List Char)} (hc : c ≠ '\n')
    (h : splitLines cs = line :: lines) : splitLines (c :: cs) = (c :: line) :: lines := by
  rw [splitLines, if_neg hc, h]

/-- A text without line feeds is one line. -/
theorem splitLines_of_not_mem {line : List Char} (h : '\n' ∉ line) : splitLines line = [line] := by
  induction line with
  | nil => rfl
  | cons c rest ih =>
      obtain ⟨hc, hrest⟩ := List.ne_and_not_mem_of_not_mem_cons h
      exact splitLines_cons (Ne.symm hc) (ih hrest)

/-- The first line goes to the first line feed. -/
theorem splitLines_append {line : List Char} (h : '\n' ∉ line) (rest : List Char) :
    splitLines (line ++ '\n' :: rest) = line :: splitLines rest := by
  induction line with
  | nil => exact splitLines_feed rest
  | cons c more ih =>
      obtain ⟨hc, hmore⟩ := List.ne_and_not_mem_of_not_mem_cons h
      exact splitLines_cons (Ne.symm hc) (ih hmore)

/-! ## Carriage returns -/

theorem withoutReturn_append_return (line : List Char) : withoutReturn (line ++ ['\r']) = line := by
  simp [withoutReturn]

/-- A line that ends in no carriage return is left as it is. -/
theorem withoutReturn_of_ne {line : List Char} (h : line.getLast? ≠ some '\r') :
    withoutReturn line = line := by
  unfold withoutReturn
  split
  · contradiction
  · rfl

theorem withoutReturn_subset (line : List Char) : withoutReturn line ⊆ line := by
  unfold withoutReturn
  split
  · exact List.dropLast_subset line
  · exact List.Subset.refl line

/-! ## Lines of a text -/

/-- The line that a line feed ends. -/
theorem linesOf_append {line : String} (h : '\n' ∉ line.toList) (rest : String) :
    linesOf (line ++ "\n" ++ rest) = .ofList (withoutReturn line.toList) :: linesOf rest := by
  obtain ⟨first, more, hrest⟩ := exists_splitLines rest.toList
  have hsplit : splitLines (line ++ "\n" ++ rest).toList = line.toList :: first :: more := by
    have hchars : (line ++ "\n" ++ rest).toList = line.toList ++ '\n' :: rest.toList := by simp
    rw [hchars, splitLines_append h, hrest]
  simp only [linesOf, hsplit, hrest, List.dropLast_cons_of_ne_nil (List.cons_ne_nil first more),
    List.getLast?_cons_cons]
  split <;> rfl

/-- What stands behind the last line feed, unless it is empty. -/
theorem linesOf_of_not_mem {last : String} (h : '\n' ∉ last.toList) :
    linesOf last = if last = "" then [] else [last] := by
  simp only [linesOf, splitLines_of_not_mem h]
  by_cases hempty : last = ""
  · subst hempty
    rfl
  · simp [hempty]

/-! ## Files put together from lines -/

/-- How a line ends. -/
inductive LineEnd where
  | feed
  | returnFeed
deriving DecidableEq, Repr

namespace LineEnd

/-- The characters of an end. -/
def text : LineEnd → String
  | feed => "\n"
  | returnFeed => "\r\n"

/-- What is left of a line once its end is found. -/
def cut : LineEnd → String → String
  | feed, line => .ofList (withoutReturn line.toList)
  | returnFeed, line => line

theorem cut_of_ne {ending : LineEnd} {line : String}
    (h : ending = feed → line.toList.getLast? ≠ some '\r') : ending.cut line = line := by
  cases ending with
  | feed => rw [cut, withoutReturn_of_ne (h rfl), String.ofList_toList]
  | returnFeed => rfl

end LineEnd

/-- The text of some lines, each with its end, and of what stands behind the last end. -/
def fileOf : List (String × LineEnd) → String → String
  | [], last => last
  | (line, ending) :: rest, last => line ++ ending.text ++ fileOf rest last

/-- The lines of a text that begins with a line and its end. -/
theorem linesOf_ended {line : String} (h : '\n' ∉ line.toList) (ending : LineEnd) (rest : String) :
    linesOf (line ++ ending.text ++ rest) = ending.cut line :: linesOf rest := by
  cases ending with
  | feed => exact linesOf_append h rest
  | returnFeed =>
      have hreturn : '\n' ∉ (line ++ "\r").toList := by simpa using h
      have hcut : withoutReturn (line ++ "\r").toList = line.toList := by
        rw [String.toList_append]
        exact withoutReturn_append_return line.toList
      have htext : line ++ LineEnd.returnFeed.text ++ rest = line ++ "\r" ++ "\n" ++ rest := by
        rw [← String.toList_inj]
        simp [LineEnd.text]
      rw [htext, linesOf_append hreturn, hcut, String.ofList_toList]
      rfl

/-- The lines of a file that was put together from lines. -/
theorem linesOf_fileOf {lines : List (String × LineEnd)} (h : ∀ l ∈ lines, '\n' ∉ l.1.toList)
    {last : String} (hlast : '\n' ∉ last.toList) :
    linesOf (fileOf lines last) =
      lines.map (fun l => l.2.cut l.1) ++ if last = "" then [] else [last] := by
  induction lines with
  | nil => exact linesOf_of_not_mem hlast
  | cons l rest ih =>
      obtain ⟨hl, hrest⟩ := List.forall_mem_cons.1 h
      rw [fileOf, linesOf_ended hl, ih hrest]
      rfl

/-- Some lines are those of a text: the text is put together from them, with an end to each but for
what stands behind the last end. -/
def IsLinesOf (s : String) (lines : List String) : Prop :=
  ∃ ended : List (String × LineEnd), ∃ last : String,
    s = fileOf ended last ∧
      (∀ l ∈ ended, '\n' ∉ l.1.toList ∧ (l.2 = .feed → l.1.toList.getLast? ≠ some '\r')) ∧
      '\n' ∉ last.toList ∧ lines = ended.map Prod.fst ++ if last = "" then [] else [last]

/-- There is only one way to see a text as lines. -/
theorem IsLinesOf.eq {s : String} {lines : List String} (h : IsLinesOf s lines) :
    lines = linesOf s := by
  obtain ⟨ended, last, rfl, hended, hlast, rfl⟩ := h
  rw [linesOf_fileOf (fun l hl => (hended l hl).1) hlast]
  congr 1
  exact List.map_congr_left fun l hl => (LineEnd.cut_of_ne (hended l hl).2).symm

/-- A line with the line feed behind it is a line with its end. -/
theorem exists_ended {line : List Char} (h : '\n' ∉ line) :
    ∃ l : String × LineEnd, (l.1 ++ l.2.text).toList = line ++ ['\n'] ∧ '\n' ∉ l.1.toList ∧
      (l.2 = .feed → l.1.toList.getLast? ≠ some '\r') := by
  by_cases hreturn : line.getLast? = some '\r'
  · obtain ⟨start, rfl⟩ := List.getLast?_eq_some_iff.1 hreturn
    refine ⟨(.ofList start, .returnFeed), ?_, ?_, fun hfeed => nomatch hfeed⟩
    · simp [LineEnd.text]
    · simpa using h
  · refine ⟨(.ofList line, .feed), ?_, ?_, fun _ => ?_⟩
    · simp [LineEnd.text]
    · simpa using h
    · simpa using hreturn

/-- Every text is put together from lines. -/
theorem exists_isLinesOf (cs : List Char) : ∃ lines, IsLinesOf (.ofList cs) lines := by
  by_cases hfeed : '\n' ∈ cs
  · obtain ⟨line, rest, hcs, hline⟩ := List.eq_append_cons_of_mem hfeed
    have hshorter : rest.length < cs.length := by
      rw [hcs]
      simp only [List.length_append, List.length_cons]
      omega
    obtain ⟨-, ended, last, hrest, hended, hlast, -⟩ := exists_isLinesOf rest
    obtain ⟨l, hl, hvalid⟩ := exists_ended hline
    refine ⟨_, l :: ended, last, ?_, List.forall_mem_cons.2 ⟨hvalid, hended⟩, hlast, rfl⟩
    rw [fileOf, ← hrest, ← String.toList_inj, String.toList_append, hl]
    simp [hcs]
  · refine ⟨_, [], .ofList cs, rfl, ?_, by simpa using hfeed, rfl⟩
    exact fun _ hl => (List.not_mem_nil hl).elim
termination_by cs.length

/-- The lines of a text are those that it is put together from. -/
theorem isLinesOf_linesOf (s : String) : IsLinesOf s (linesOf s) := by
  obtain ⟨lines, h⟩ := exists_isLinesOf s.toList
  rw [String.ofList_toList] at h
  exact h.eq ▸ h

end MessageQueue
