import Autocomplete.Proofs.Document.Cursor
import Autocomplete.Proofs.Text.Lines
import Autocomplete.Session

/-!
# Guessing from the text before the cursor

The type of a variable is guessed from the lines before the cursor. These are put together from the
start of the line of the cursor, the complete lines before it and the part of the line before the
cursor. Where lines end at newlines alone, this is what stands before the cursor, without the
comments and cut down to the last lines, and the text after the cursor has no part in it.
-/

namespace Autocomplete

open Scan Text

namespace Document

theorem dropReturn_of_not_mem {line : List Char} (h : '\r' ∉ line) : dropReturn line = line :=
  if_neg fun hlast => h (List.mem_of_getLast? hlast)

theorem completeLines_append_newline {front : List Char} (h : '\r' ∉ front) :
    completeLines (front ++ ['\n']) = lines front := by
  have hlines : lines (front ++ ['\n']) = lines front ++ [[]] := lines_append_cons front []
  have hkept : (lines front).map dropReturn = lines front := by
    refine (List.map_congr_left fun line hline => ?_).trans (List.map_id _)
    exact dropReturn_of_not_mem fun hc => h (mem_of_mem_lines hline _ hc)
  rw [completeLines, hlines]
  simp [hkept]

theorem contextBefore_eq (d : Document) (cursor count : Nat) :
    d.contextBefore cursor count = String.ofList (unlines
      (((completeLines (d.chars.toList.take (d.lineAt cursor).start)).filter
          (!isCommentLine ·)).rtake count ++
        [(d.chars.toList.take cursor).drop (d.lineAt cursor).start])) := by
  have hslice : ∀ w : Window,
      (w.slice d.chars).toList = (d.chars.toList.take w.stop).drop w.start := by
    intro w
    rw [← toList_textIn, textIn, String.toList_ofList]
  rw [contextBefore, List.rtake_eq_reverse_take_reverse, List.filter_reverse]
  simp only [hslice, List.drop_zero]

/-- The lines of the text before a cursor are the complete lines before the cursor line and its
front part, and the context is made from these. -/
theorem HasPlainLines.exists_cursor_line {d : Document} (h : d.HasPlainLines) (cursor : Nat) :
    ∃ before left right after,
      lines d.chars.toList = before ++ (left ++ right) :: after ∧
      lines (d.chars.toList.take cursor) = before ++ [left] ∧
      ∀ count, d.contextBefore cursor count =
        String.ofList (unlines ((before.filter (!isCommentLine ·)).rtake count ++ [left])) := by
  obtain ⟨left, hleft⟩ : ∃ left, (d.chars.toList.take cursor).drop (d.lineAt cursor).start = left :=
    ⟨_, rfl⟩
  have hnewline : '\n' ∉ left := hleft ▸ d.newline_not_mem_drop_lineAt cursor
  have htake := d.take_append_drop_lineAt cursor
  rw [hleft] at htake
  obtain ⟨right, after, -, hrest⟩ := exists_lines_append hnewline (d.chars.toList.drop cursor)
  have htext : d.chars.toList =
      d.chars.toList.take (d.lineAt cursor).start ++ (left ++ d.chars.toList.drop cursor) := by
    rw [← List.append_assoc, htake, List.take_append_drop]
  have hone : lines left = [left] := List.splitOn_eq_singleton hnewline
  rcases h.front_eq cursor with hfront | ⟨front, hfront⟩
  · -- The cursor stands in the first line.
    refine ⟨[], left, right, after, ?_, ?_, fun count => ?_⟩
    · rw [htext, hfront]
      exact hrest
    · rw [← htake, hfront]
      exact hone
    · rw [contextBefore_eq, hfront, hleft]
      rfl
  · -- What stands before the line of the cursor are complete lines, none with a return at its end.
    have hreturn : '\r' ∉ front := by
      intro hmem
      have hin : '\r' ∈ d.chars.toList.take (d.lineAt cursor).start :=
        hfront ▸ List.mem_append_left _ hmem
      exact h '\r' List.mem_cons_self (List.mem_of_mem_take hin)
    refine ⟨lines front, left, right, after, ?_, ?_, fun count => ?_⟩
    · rw [htext, hfront, List.append_assoc, List.singleton_append, lines_append_cons, hrest]
    · rw [← htake, hfront, List.append_assoc, List.singleton_append, lines_append_cons, hone]
    · rw [contextBefore_eq, hfront, hleft, completeLines_append_newline hreturn]

section Agreement

variable {d d' : Document} {cursor : Nat}

theorem contextBefore_eq_of_take_eq (h : d.HasPlainLines) (h' : d'.HasPlainLines)
    (hagree : d.chars.toList.take cursor = d'.chars.toList.take cursor) (count : Nat) :
    d.contextBefore cursor count = d'.contextBefore cursor count := by
  obtain ⟨before, left, -, -, -, hlines, hcontext⟩ := h.exists_cursor_line cursor
  obtain ⟨before', left', -, -, -, hlines', hcontext'⟩ := h'.exists_cursor_line cursor
  rw [hagree, hlines'] at hlines
  obtain ⟨rfl, hleft⟩ := List.append_inj' hlines rfl
  obtain rfl := List.singleton_inj.mp hleft
  rw [hcontext, hcontext']

theorem wordEndingAt_eq_of_take_eq {stop : Nat} (hle : stop ≤ cursor)
    (hagree : d.chars.toList.take cursor = d'.chars.toList.take cursor) :
    d.wordEndingAt stop = d'.wordEndingAt stop := by
  have htake := congrArg (List.take stop) hagree
  rw [List.take_take, List.take_take, Nat.min_eq_left hle] at htake
  rw [← String.toList_inj, toList_wordEndingAt, toList_wordEndingAt, htake]

end Agreement

end Document

namespace Session

theorem memberItems_eq_of_take_eq (s : Session) {d d' : Document} {cursor : Nat}
    (h : d.HasPlainLines) (h' : d'.HasPlainLines)
    (hagree : d.chars.toList.take cursor = d'.chars.toList.take cursor) :
    s.memberItems d cursor = s.memberItems d' cursor := by
  unfold memberItems
  rw [Document.wordEndingAt_eq_of_take_eq (Nat.sub_le cursor 1) hagree,
    Document.contextBefore_eq_of_take_eq h h' hagree]

/-- Two documents whose lines end at newlines alone and that agree up to the cursor get the same
members, and leave the same guesses. For the lines `before` the cursor line and its part `left` of
the cursor, the type is guessed from the last of the lines that are no comments, and from `left`. -/
theorem members_are_guessed_from_before (s : Session) {d d' : Document} {cursor : Nat}
    (h : d.HasPlainLines) (h' : d'.HasPlainLines)
    (hagree : d.chars.toList.take cursor = d'.chars.toList.take cursor) :
    s.memberItems d cursor = s.memberItems d' cursor ∧
      ∃ before left right after,
        lines d.chars.toList = before ++ (left ++ right) :: after ∧
        lines (d.chars.toList.take cursor) = before ++ [left] ∧
        ∀ count, d.contextBefore cursor count =
          String.ofList (unlines ((before.filter (!isCommentLine ·)).rtake count ++ [left])) :=
  ⟨s.memberItems_eq_of_take_eq h h' hagree, h.exists_cursor_line cursor⟩

def engineSession : Session :=
  { Session.new {} with
    store := Store.put ∅ 3 { members := some (.ofPairs [("Engine", "start")]) } }

/-- The type of the variable stands on the first line, and in a comment another one. -/
def engineSource : String := "let engine = Engine()\n// engine = Pump()\nengine."

/-- The same text with something after the cursor. -/
def pumpSource : String := engineSource ++ "stop()\nengine = Pump()"

theorem members_are_guessed_from_before_engine :
    let d := Document.ofString 1 engineSource
    let d' := Document.ofString 2 pumpSource
    d.HasPlainLines ∧ d'.HasPlainLines ∧ d.chars.toList.take 48 = d'.chars.toList.take 48 ∧
      (engineSession.memberItems d 48).1 = [⟨"start\t+", "start"⟩] ∧
      engineSession.memberItems d 48 = engineSession.memberItems d' 48 ∧
      ∃ before left right after,
        lines d.chars.toList = before ++ (left ++ right) :: after ∧
        lines (d.chars.toList.take 48) = before ++ [left] ∧
        ∀ count, d.contextBefore 48 count =
          String.ofList (unlines ((before.filter (!isCommentLine ·)).rtake count ++ [left])) := by
  intro d d'
  have h : d.HasPlainLines := by decide +kernel
  have h' : d'.HasPlainLines := by decide +kernel
  have hagree : d.chars.toList.take 48 = d'.chars.toList.take 48 := by decide +kernel
  have hitems : (engineSession.memberItems d 48).1 = [⟨"start\t+", "start"⟩] := by decide +kernel
  exact ⟨h, h', hagree, hitems, members_are_guessed_from_before engineSession h h' hagree⟩

end Session

end Autocomplete
