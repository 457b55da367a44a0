import Autocomplete.Proofs.Text.Lines
import Mathlib.Data.List.Chain

/-!
# Open bodies from line to line

What becomes of a line depends on the bodies that are open before it, and on nothing else of the
lines before. A body is opened only by a line that is less than one level deeper than the innermost
open body, so each open body is less than one level deeper than the next one out. Therefore a brace
that closes bodies does not lie inside the body that is innermost after it, and is kept. All other
changes are made by kept lines, so that a dropped line might as well not be there.
-/

namespace Autocomplete
namespace Outline

open Text

/-- The bodies open after a line, of which `opened` were open before it. -/
def next (width : Nat) (opened : List Nat) (line : List Char) : List Nat :=
  let opened := openAt opened line
  if isInside width opened line then opened
  else if opensBody line then indentation line :: opened else opened

/-- The bodies open after the lines of a source read so far. -/
def openAfter (width : Nat) (before : List (List Char)) : List Nat := before.foldl (next width) []

/-- The line is dropped from a source in which it follows the lines `before`. -/
def Drops (width : Nat) (before : List (List Char)) (line : List Char) : Prop :=
  keptLines width [] (before ++ [line]) = keptLines width [] before

instance (width : Nat) (before : List (List Char)) (line : List Char) :
    Decidable (Drops width before line) :=
  inferInstanceAs (Decidable (_ = _))

/-- Each open body is less than one level deeper than the one around it. -/
def Stacked (width : Nat) (opened : List Nat) : Prop :=
  opened.IsChain fun inner outer => inner < outer + width

section

variable {width : Nat} {opened : List Nat} {line : List Char} {ls before : List (List Char)}

theorem keptLines_cons_of_inside (h : isInside width (openAt opened line) line = true) :
    keptLines width opened (line :: ls) = keptLines width (next width opened line) ls := by
  rw [keptLines, if_pos h, next, if_pos h]

theorem keptLines_cons_of_outside (h : isInside width (openAt opened line) line = false) :
    keptLines width opened (line :: ls) = line :: keptLines width (next width opened line) ls := by
  rw [keptLines, h, next, h]
  simp

/-- The bodies that are open hold all that the later lines need to know of the earlier ones. -/
theorem keptLines_append_foldl (before ls : List (List Char)) :
    keptLines width opened (before ++ ls) =
      keptLines width opened before ++ keptLines width (before.foldl (next width) opened) ls := by
  induction before generalizing opened with
  | nil => rfl
  | cons line before ih =>
    rw [List.cons_append, List.foldl_cons]
    cases h : isInside width (openAt opened line) line with
    | true => rw [keptLines_cons_of_inside h, keptLines_cons_of_inside h, ih]
    | false => rw [keptLines_cons_of_outside h, keptLines_cons_of_outside h, ih, List.cons_append]

theorem keptLines_append (width : Nat) (before ls : List (List Char)) :
    keptLines width [] (before ++ ls) =
      keptLines width [] before ++ keptLines width (openAfter width before) ls :=
  keptLines_append_foldl before ls

theorem openAfter_append_singleton (width : Nat) (before : List (List Char)) (line : List Char) :
    openAfter width (before ++ [line]) = next width (openAfter width before) line := by
  rw [openAfter, List.foldl_append]
  rfl

theorem drops_iff :
    Drops width before line ↔
      isInside width (openAt (openAfter width before) line) line = true := by
  rw [Drops, keptLines_append, List.append_right_eq_self]
  cases h : isInside width (openAt (openAfter width before) line) line with
  | true =>
    rw [keptLines_cons_of_inside h]
    exact iff_of_true rfl rfl
  | false => simp [keptLines_cons_of_outside h]

/-! ### Braces that close bodies are kept -/

theorem openAt_suffix (opened : List Nat) (line : List Char) : openAt opened line <:+ opened := by
  unfold openAt
  split
  · exact List.dropWhile_suffix _
  · exact List.suffix_rfl

theorem Stacked.next (h : Stacked width opened) (line : List Char) :
    Stacked width (next width opened line) := by
  have hopen : Stacked width (openAt opened line) := h.suffix (openAt_suffix opened line)
  unfold Outline.next
  dsimp only
  split
  · exact hopen
  · rename_i hinside
    split
    · refine List.isChain_cons.mpr ⟨?_, hopen⟩
      intro outer houter
      simpa [isInside, Option.mem_def.mp houter] using hinside
    · exact hopen

theorem stacked_openAfter (width : Nat) (before : List (List Char)) :
    Stacked width (openAfter width before) := by
  induction before using List.reverseRecOn with
  | nil => exact .nil
  | append_singleton before line ih =>
    rw [openAfter_append_singleton]
    exact ih.next line

/-- The innermost of several bodies of one indentation is less than one level deeper than what is
open around them all. -/
theorem Stacked.lt_of_dropWhile {indent : Nat} (h : Stacked width (indent :: opened)) :
    ∀ outer ∈ ((indent :: opened).dropWhile (· == indent)).head?, indent < outer + width := by
  induction opened with
  | nil => simp
  | cons next opened ih =>
    rw [List.dropWhile_cons_of_pos (by simp)]
    obtain ⟨hnext, hrest⟩ := List.isChain_cons_cons.mp h
    by_cases heq : next = indent
    · subst heq
      exact ih hrest
    · rw [List.dropWhile_cons_of_neg (by simpa using heq)]
      simpa using hnext

/-- A line that closes a body is not inside the body that is innermost then. -/
theorem Stacked.not_inside_of_closing (h : Stacked width opened)
    (hclose : openAt opened line ≠ opened) :
    isInside width (openAt opened line) line = false := by
  cases hbrace : isLoneBrace line with
  | false => exact absurd (if_neg (by simp [hbrace])) hclose
  | true =>
    have hopen : openAt opened line = opened.dropWhile (· == indentation line) := if_pos hbrace
    rw [hopen] at hclose ⊢
    cases opened with
    | nil => rfl
    | cons indent opened =>
      by_cases heq : indent = indentation line
      · subst heq
        have hlt := h.lt_of_dropWhile
        rw [isInside, Option.any_eq_false]
        intro outer houter
        simpa using hlt outer houter
      · exact absurd (List.dropWhile_cons_of_neg (by simpa using heq)) hclose

theorem Stacked.openAt_of_inside (h : Stacked width opened)
    (hinside : isInside width (openAt opened line) line = true) : openAt opened line = opened := by
  by_contra hclose
  exact Bool.false_ne_true ((h.not_inside_of_closing hclose).symm.trans hinside)

/-- A dropped line neither closes nor opens a body. -/
theorem Stacked.next_of_inside (h : Stacked width opened)
    (hinside : isInside width (openAt opened line) line = true) :
    Outline.next width opened line = opened := by
  rw [Outline.next, if_pos hinside, h.openAt_of_inside hinside]

/-- The lines that are kept are kept again. -/
theorem Stacked.keptLines_keptLines (h : Stacked width opened) (ls : List (List Char)) :
    keptLines width opened (keptLines width opened ls) = keptLines width opened ls := by
  induction ls generalizing opened with
  | nil => rfl
  | cons line ls ih =>
    cases hinside : isInside width (openAt opened line) line with
    | true =>
      rw [keptLines_cons_of_inside hinside, h.next_of_inside hinside, ih h]
    | false =>
      rw [keptLines_cons_of_outside hinside, keptLines_cons_of_outside hinside,
        ih (h.next line)]

end

/-! ### Outlines of texts -/

theorem exists_first_line (width : Nat) (text : String) :
    ∃ first rest later, lines text.toList = first :: rest ∧
      keptLines width [] (lines text.toList) = first :: later := by
  obtain ⟨first, rest, hlines⟩ := List.exists_cons_of_ne_nil (List.splitOn_ne_nil '\n' text.toList)
  have houtside : isInside width (openAt [] first) first = false := by
    unfold openAt
    split <;> rfl
  refine ⟨first, rest, keptLines width (next width [] first) rest, hlines, ?_⟩
  rw [lines, hlines, keptLines_cons_of_outside houtside]

theorem lines_dropBodies (width : Nat) (text : String) :
    lines (dropBodies width text).toList = keptLines width [] (lines text.toList) := by
  obtain ⟨first, rest, later, hlines, hkept⟩ := exists_first_line width text
  have hne : keptLines width [] (lines text.toList) ≠ [] := by
    rw [hkept]
    exact List.cons_ne_nil first later
  rw [dropBodies, String.toList_ofList]
  apply lines_unlines hne
  intro line hline
  exact newline_not_mem_of_mem_lines ((keptLines_sublist _ _ _).mem hline)

theorem dropBodies_dropBodies (width : Nat) (text : String) :
    dropBodies width (dropBodies width text) = dropBodies width text := by
  have hagain : keptLines width [] (keptLines width [] (lines text.toList)) =
      keptLines width [] (lines text.toList) := Stacked.keptLines_keptLines .nil _
  calc dropBodies width (dropBodies width text)
      = String.ofList (unlines (keptLines width [] (lines (dropBodies width text).toList))) := rfl
    _ = String.ofList (unlines (keptLines width [] (lines text.toList))) := by
      rw [lines_dropBodies, hagain]
    _ = dropBodies width text := rfl

/-- The outline of a text keeps some of its lines in their order, the first one among them. A line
that closes a body is kept, and a dropped line leaves the open bodies as they are. Therefore an
outline is its own outline. -/
theorem outlines_are_their_own_outlines (width : Nat) (text : String) :
    let ls := lines text.toList
    let kept := lines (dropBodies width text).toList
    kept = keptLines width [] ls ∧ kept.Sublist ls ∧
    (∃ first rest later, ls = first :: rest ∧ kept = first :: later) ∧
    (∀ before line after, ls = before ++ line :: after →
      let opened := openAfter width before
      keptLines width [] ls = keptLines width [] before ++ keptLines width opened (line :: after) ∧
      (openAt opened line ≠ opened → ¬Drops width before line) ∧
      (Drops width before line → openAfter width (before ++ [line]) = opened)) ∧
    dropBodies width (dropBodies width text) = dropBodies width text := by
  intro ls kept
  have hkept : kept = keptLines width [] ls := lines_dropBodies width text
  refine ⟨hkept, ?_, ?_, ?_, dropBodies_dropBodies width text⟩
  · rw [hkept]
    exact keptLines_sublist width [] ls
  · rw [hkept]
    exact exists_first_line width text
  · intro before line after hsplit opened
    have hstacked : Stacked width opened := stacked_openAfter width before
    refine ⟨?_, ?_, ?_⟩
    · rw [hsplit, keptLines_append]
    · intro hclose hdrops
      rw [drops_iff, hstacked.not_inside_of_closing hclose] at hdrops
      exact Bool.false_ne_true hdrops
    · intro hdrops
      rw [openAfter_append_singleton]
      exact hstacked.next_of_inside (drops_iff.mp hdrops)

end Outline
end Autocomplete
