import ComposeHarness.Text.Blank

/-!
# Pieces and lines

A text is divided at a character into pieces that do not hold it. The lines of a text are the pieces
between its line feeds, without the carriage returns before them. Lines that are printed one after
the other, each with a line feed after it, are got back by dividing the text at its line feeds.
-/
namespace ComposeHarness.Text

theorem not_mem_of_mem_splitOn {c : Char} {cs piece : List Char} (h : piece ∈ cs.splitOn c) :
    c ∉ piece := by
  induction cs generalizing piece with
  | nil =>
    rw [List.splitOn_nil, List.mem_singleton] at h
    simp [h]
  | cons d cs ih =>
    rw [List.splitOn_cons_eq_if_modifyHead] at h
    split at h
    · rcases List.mem_cons.1 h with rfl | h
      · simp
      · exact ih h
    · next hd =>
      cases hcs : cs.splitOn c with
      | nil => exact absurd hcs (List.splitOn_ne_nil _ _)
      | cons first rest =>
        rw [hcs] at h ih
        rcases List.mem_cons.1 h with rfl | h
        · have hne : c ≠ d := fun heq => hd (by simp [heq])
          simp [hne, ih List.mem_cons_self]
        · exact ih (List.mem_cons_of_mem _ h)

theorem splitAt_eq_splitOnP (stop : Char → Bool) (cs : List Char) :
    splitAt stop cs = cs.splitOnP stop := by
  induction cs with
  | nil => rfl
  | cons c cs ih =>
    rw [splitAt, ih, List.splitOnP_cons_eq_if_modifyHead]
    cases h : cs.splitOnP stop with
    | nil => exact absurd h (List.splitOnP_ne_nil _ _)
    | cons piece rest => rfl

/-! ### Lines -/

/-- The lines of a text. Each ends at a line feed, and one carriage return right before the line
feed is no part of it. What follows the last line feed is a line too, unless it is empty. -/
inductive IsLines : String → List String → Prop where
  | nil : IsLines "" []
  | last {s : String} (h : '\n' ∉ s.toList) (full : s ≠ "") : IsLines s [s]
  | lineFeed {line rest : String} {later : List String} (h : '\n' ∉ line.toList)
      (bare : line.toList.getLast? ≠ some '\r') (below : IsLines rest later) :
      IsLines (line ++ "\n" ++ rest) (line :: later)
  | returnLineFeed {line rest : String} {later : List String} (h : '\n' ∉ line.toList)
      (below : IsLines rest later) : IsLines (line ++ "\r\n" ++ rest) (line :: later)

/-- A line holds no line feed. -/
theorem IsLines.lineFeed_not_mem {s line : String} {ls : List String} (h : IsLines s ls)
    (hline : line ∈ ls) : '\n' ∉ line.toList := by
  induction h with
  | nil => simp at hline
  | last h => rwa [List.mem_singleton.1 hline]
  | lineFeed h _ _ ih | returnLineFeed h _ ih =>
    rcases List.mem_cons.1 hline with rfl | hline
    · exact h
    · exact ih hline

theorem splitAt_lineFeed (cs : List Char) : splitAt (· == '\n') cs = cs.splitOn '\n' :=
  splitAt_eq_splitOnP ..

/-- A text without a line feed is one line. -/
theorem lines_of_not_mem {s : String} (h : '\n' ∉ s.toList) (full : s ≠ "") : lines s = [s] := by
  have hne : s.toList.isEmpty = false := by simpa using full
  simp [lines, splitAt_lineFeed, List.splitOn_eq_singleton h, hne]

/-- The first line feed ends the first line. -/
theorem lines_append {piece : List Char} (h : '\n' ∉ piece) (rest : String) :
    lines (String.ofList piece ++ "\n" ++ rest) =
      String.ofList (dropReturn piece) :: lines rest := by
  have htext : (String.ofList piece ++ "\n" ++ rest).toList = piece ++ '\n' :: rest.toList := by
    simp
  obtain ⟨first, more, hmore⟩ :=
    List.exists_cons_of_ne_nil (List.splitOn_ne_nil '\n' rest.toList)
  simp only [lines, htext, splitAt_lineFeed, List.splitOn_append_cons_self_of_not_mem h, hmore,
    List.dropLast_cons_cons, List.map_cons, List.getLastD_cons]
  split <;> rfl

theorem lines_lineFeed {line : String} (h : '\n' ∉ line.toList)
    (bare : line.toList.getLast? ≠ some '\r') (rest : String) :
    lines (line ++ "\n" ++ rest) = line :: lines rest := by
  simpa [dropReturn, bare] using lines_append h rest

theorem lines_returnLineFeed {line : String} (h : '\n' ∉ line.toList) (rest : String) :
    lines (line ++ "\r\n" ++ rest) = line :: lines rest := by
  have hreturn : '\n' ∉ line.toList ++ ['\r'] := by simp [h]
  have htext : String.ofList (line.toList ++ ['\r']) ++ "\n" ++ rest = line ++ "\r\n" ++ rest := by
    simp [← String.toList_inj]
  rw [← htext, lines_append hreturn]
  simp [dropReturn]

/-- A text with a line feed in it goes on after the end of its first line. -/
theorem exists_firstLine {s : String} (h : '\n' ∈ s.toList) :
    ∃ line rest : String, '\n' ∉ line.toList ∧ rest.length < s.length ∧
      (s = line ++ "\r\n" ++ rest ∨
        line.toList.getLast? ≠ some '\r' ∧ s = line ++ "\n" ++ rest) := by
  obtain ⟨piece, rest, hsplit, hpiece⟩ := List.eq_append_cons_of_mem h
  have shorter : (String.ofList rest).length < s.length := by
    rw [← String.length_toList, ← String.length_toList, hsplit, String.toList_ofList,
      List.length_append, List.length_cons]
    omega
  by_cases hreturn : piece.getLast? = some '\r'
  · obtain ⟨line, rfl⟩ := List.getLast?_eq_some_iff.1 hreturn
    have hline : '\n' ∉ line := fun hmem => hpiece (List.mem_append_left _ hmem)
    refine ⟨String.ofList line, String.ofList rest, by simpa using hline, shorter, .inl ?_⟩
    simp [← String.toList_inj, hsplit]
  · refine ⟨String.ofList piece, String.ofList rest, by simpa using hpiece, shorter, .inr ⟨?_, ?_⟩⟩
    · simpa using hreturn
    · simp [← String.toList_inj, hsplit]

theorem isLines_lines (s : String) : IsLines s (lines s) := by
  by_cases h : '\n' ∈ s.toList
  · obtain ⟨line, rest, hline, shorter, htext | ⟨bare, htext⟩⟩ := exists_firstLine h
    · rw [htext, lines_returnLineFeed hline]
      exact .returnLineFeed hline (isLines_lines rest)
    · rw [htext, lines_lineFeed hline bare]
      exact .lineFeed hline bare (isLines_lines rest)
  · by_cases full : s = ""
    · subst full
      exact .nil
    · rw [lines_of_not_mem h full]
      exact .last h full
termination_by s.length

/-- A text has the lines that the function gives, and no others. -/
theorem isLines_iff {s : String} {ls : List String} : IsLines s ls ↔ lines s = ls := by
  constructor
  · intro h
    induction h with
    | nil => rfl
    | last h full => exact lines_of_not_mem h full
    | lineFeed h bare _ ih => rw [lines_lineFeed h bare, ih]
    | returnLineFeed h _ ih => rw [lines_returnLineFeed h, ih]
  · rintro rfl
    exact isLines_lines s

example : lines "up\r\n\ndown\r" = ["up", "", "down\r"] := by decide +kernel

/-! ### Printed lines -/

/-- The lines of a text in which every line is ended by a line feed. -/
def endedLines (text : String) : List String :=
  ((text.toList.splitOn '\n').dropLast).map String.ofList

/-- Printed lines are read back. -/
theorem endedLines_join {printed : List String} (h : ∀ line ∈ printed, '\n' ∉ line.toList) :
    endedLines (String.join (printed.map fun line => line ++ "\n")) = printed := by
  have hsplit : (String.join (printed.map fun line => line ++ "\n")).toList.splitOn '\n' =
      printed.map String.toList ++ [[]] := by
    induction printed with
    | nil => rfl
    | cons line rest ih =>
      obtain ⟨hline, hrest⟩ := List.forall_mem_cons.1 h
      have htext : (String.join ((line :: rest).map fun line => line ++ "\n")).toList =
          line.toList ++ '\n' :: (String.join (rest.map fun line => line ++ "\n")).toList := by
        simp
      rw [htext, List.splitOn_append_cons_self_of_not_mem hline, ih hrest]
      rfl
  rw [endedLines, hsplit, List.dropLast_concat, List.map_map]
  exact List.map_id'' (fun _ => String.ofList_toList) printed

end ComposeHarness.Text
