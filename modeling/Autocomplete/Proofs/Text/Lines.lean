import Autocomplete.Outline
import Mathlib.Data.List.TakeWhile

/-!
# Lines put together and cut apart

A text that is put together from lines without newlines is cut into the same lines again, whether or
not a newline ends it. Trimming leaves a line alone that neither begins nor ends with a blank, and a
source in which no line is blank or a comment is its own outline.
-/

namespace Autocomplete

namespace Text

section Trimming

variable {cs : List Char} {c : Char}

theorem isBlank_eq_false_of {p : Char → Bool}
    (htable : ∀ r ∈ whiteSpaceRuns, ∀ n ∈ List.range' r.first (r.last + 1 - r.first),
      p (Char.ofNat n) = false) (h : p c = true) : isBlank c = false := by
  rw [Bool.eq_false_iff]
  intro hblank
  obtain ⟨r, hr, hcontains⟩ := exists_contains_of_covers hblank
  simp only [CodeRun.contains, Bool.and_eq_true, decide_eq_true_eq] at hcontains
  have hnot := htable r hr c.toNat (List.mem_range'_1.mpr (by omega))
  rw [Char.ofNat_toNat] at hnot
  exact absurd (hnot.symm.trans h) Bool.false_ne_true

theorem isBlank_of_isNameChar (h : isNameChar c = true) : isBlank c = false :=
  isBlank_eq_false_of (by decide +kernel) h

theorem isBlank_of_isWideWordChar (h : isWideWordChar c = true) : isBlank c = false :=
  isBlank_eq_false_of (by decide +kernel) h

/-- A text that neither begins nor ends with a blank is trimmed already. -/
theorem trim_of_ends {first last : Char} (hfirst : isBlank first = false)
    (hlast : isBlank last = false) (middle : List Char) :
    trim (first :: (middle ++ [last])) = first :: (middle ++ [last]) := by
  have hstart : trimStart (first :: (middle ++ [last])) = first :: (middle ++ [last]) :=
    List.dropWhile_cons_of_neg (by simp [hfirst])
  rw [trim, hstart, trimEnd, List.reverse_cons, List.reverse_append]
  simp [hlast]

theorem trim_eq_nil_iff : trim cs = [] ↔ ∀ c ∈ cs, isBlank c = true := by
  have hsplit := List.takeWhile_append_dropWhile (p := isBlank) (l := cs)
  rw [trim, trimEnd, List.reverse_eq_nil_iff, List.dropWhile_eq_nil_iff]
  constructor
  · intro h c hc
    rw [← hsplit, List.mem_append] at hc
    rcases hc with hc | hc
    · exact List.mem_takeWhile_imp hc
    · exact h c (List.mem_reverse.mpr hc)
  · intro h c hc
    exact h c (List.dropWhile_sublist _ |>.mem (List.mem_reverse.mp hc))

theorem mem_trim_or_isBlank (h : c ∈ cs) : c ∈ trim cs ∨ isBlank c = true := by
  have hstart := List.takeWhile_append_dropWhile (p := isBlank) (l := cs)
  have hend := List.takeWhile_append_dropWhile (p := isBlank) (l := (trimStart cs).reverse)
  rw [← hstart, List.mem_append] at h
  rcases h with h | h
  · exact .inr (List.mem_takeWhile_imp h)
  · have hmem : c ∈ (trimStart cs).reverse := List.mem_reverse.mpr h
    rw [← hend, List.mem_append] at hmem
    rcases hmem with hmem | hmem
    · exact .inr (List.mem_takeWhile_imp hmem)
    · exact .inl (List.mem_reverse.mpr hmem)

theorem not_isCommentLine (h : '/' ∉ cs) : isCommentLine cs = false := by
  rw [Bool.eq_false_iff]
  intro hcomment
  have hbegins := List.isPrefixOf_iff_prefix.mp hcomment
  exact h ((List.dropWhile_sublist _).mem (hbegins.subset List.mem_cons_self))

end Trimming

theorem mem_of_mem_splitOnP {p : Char → Bool} {cs piece : List Char}
    (h : piece ∈ cs.splitOnP p) : ∀ c ∈ piece, c ∈ cs := by
  induction cs generalizing piece with
  | nil =>
    have hpiece : piece = [] := by simpa [List.splitOnP_nil] using h
    simp [hpiece]
  | cons d cs ih =>
    intro c hc
    rw [List.splitOnP_cons_eq_if_modifyHead] at h
    split at h
    · rcases List.mem_cons.mp h with rfl | h
      · exact absurd hc List.not_mem_nil
      · exact List.mem_cons_of_mem d (ih h c hc)
    · obtain ⟨first, pieces, hpieces⟩ :=
        List.exists_cons_of_ne_nil (List.splitOnP_ne_nil p cs)
      rw [hpieces] at ih h
      rcases List.mem_cons.mp h with rfl | h
      · rcases List.mem_cons.mp hc with rfl | hc
        · exact List.mem_cons_self
        · exact List.mem_cons_of_mem d (ih List.mem_cons_self c hc)
      · exact List.mem_cons_of_mem d (ih (List.mem_cons_of_mem first h) c hc)

theorem mem_of_mem_lines {cs line : List Char} (h : line ∈ lines cs) : ∀ c ∈ line, c ∈ cs :=
  mem_of_mem_splitOnP h

def ending (newlineAtEnd : Bool) : List Char := if newlineAtEnd then ['\n'] else []

theorem eq_of_mem_ending {c : Char} {newlineAtEnd : Bool} (h : c ∈ ending newlineAtEnd) :
    c = '\n' := by
  cases newlineAtEnd with
  | false => exact absurd h List.not_mem_nil
  | true => exact List.mem_singleton.mp h

theorem not_mem_ending {c : Char} (h : c ≠ '\n') (newlineAtEnd : Bool) :
    c ∉ ending newlineAtEnd :=
  fun hmem => h (eq_of_mem_ending hmem)

section Lines

variable {ls : List (List Char)}

theorem unlines_cons (line : List Char) (rest : List (List Char)) :
    unlines (line :: rest) = line ++ rest.flatMap ('\n' :: ·) := by
  induction rest generalizing line with
  | nil => simp [unlines]
  | cons next rest ih =>
    have hlater := ih next
    rw [unlines] at hlater ⊢
    rw [List.intercalate_cons_cons, hlater]
    simp

/-- The lines of several pieces, each of which has a first line. -/
theorem flatMap_lines {α : Type} (items : List α) (pieces : α → List (List Char))
    (hne : ∀ item, pieces item ≠ []) :
    (items.flatMap pieces).flatMap ('\n' :: ·) =
      items.flatMap fun item => '\n' :: unlines (pieces item) := by
  rw [List.flatMap_assoc]
  congr 1
  funext item
  cases hpieces : pieces item with
  | nil => exact absurd hpieces (hne item)
  | cons line rest => rw [unlines_cons, List.flatMap_cons, List.cons_append]

theorem unlines_flatMap_cons {α : Type} (item : α) (items : List α) (pieces : α → List (List Char))
    (hne : ∀ item, pieces item ≠ []) :
    unlines ((item :: items).flatMap pieces) =
      unlines (pieces item) ++ items.flatMap fun item => '\n' :: unlines (pieces item) := by
  obtain ⟨line, rest, hpieces⟩ := List.exists_cons_of_ne_nil (hne item)
  rw [List.flatMap_cons, hpieces, List.cons_append, unlines_cons, unlines_cons,
    List.flatMap_append, flatMap_lines items pieces hne, List.append_assoc]

theorem unlines_append_newline (hne : ls ≠ []) : unlines ls ++ ['\n'] = unlines (ls ++ [[]]) := by
  obtain ⟨line, rest, rfl⟩ := List.exists_cons_of_ne_nil hne
  rw [List.cons_append, unlines_cons, unlines_cons]
  simp

theorem lines_unlines (hne : ls ≠ []) (h : ∀ line ∈ ls, '\n' ∉ line) : lines (unlines ls) = ls :=
  List.splitOn_intercalate '\n' h hne

theorem newline_not_mem_of_mem_lines {cs line : List Char} (h : line ∈ lines cs) : '\n' ∉ line := by
  induction cs generalizing line with
  | nil =>
    have hline : line = [] := by simpa [lines] using h
    simp [hline]
  | cons c cs ih =>
    rw [lines, List.splitOn_cons_eq_if_modifyHead] at h
    split at h
    · rcases List.mem_cons.mp h with rfl | h
      · exact List.not_mem_nil
      · exact ih h
    · rename_i hc
      obtain ⟨first, later, hlines⟩ := List.exists_cons_of_ne_nil (List.splitOn_ne_nil '\n' cs)
      rw [lines, hlines] at ih
      rw [hlines, List.modifyHead_cons] at h
      rcases List.mem_cons.mp h with rfl | h
      · have hfirst := ih List.mem_cons_self
        have hne : '\n' ≠ c := fun heq => hc (by rw [heq, beq_self_eq_true])
        simp [hne, hfirst]
      · exact ih (List.mem_cons_of_mem first h)

theorem lines_append_cons (cs rest : List Char) :
    lines (cs ++ '\n' :: rest) = lines cs ++ lines rest :=
  List.splitOn_append_cons_self cs rest

/-- What stands before the first newline of a text goes to its first line. -/
theorem exists_lines_append {front : List Char} (h : '\n' ∉ front) (rest : List Char) :
    ∃ first later,
      lines rest = first :: later ∧ lines (front ++ rest) = (front ++ first) :: later := by
  induction front with
  | nil =>
    obtain ⟨first, later, hlines⟩ := List.exists_cons_of_ne_nil (List.splitOn_ne_nil '\n' rest)
    exact ⟨first, later, hlines, hlines⟩
  | cons c front ih =>
    obtain ⟨hc, hfront⟩ := not_or.mp (mt List.mem_cons.mpr h)
    obtain ⟨first, later, hrest, hlines⟩ := ih hfront
    refine ⟨first, later, hrest, ?_⟩
    have hne : (c == '\n') = false := by simpa using Ne.symm hc
    rw [lines] at hlines ⊢
    rw [List.cons_append, List.splitOn_cons_eq_if_modifyHead, hne, if_neg Bool.false_ne_true,
      hlines]
    rfl

theorem lines_unlines_newline (hne : ls ≠ []) (h : ∀ line ∈ ls, '\n' ∉ line) :
    lines (unlines ls ++ ['\n']) = ls ++ [[]] := by
  rw [unlines_append_newline hne]
  apply lines_unlines (by simp)
  intro line hline
  rcases List.mem_append.mp hline with hline | hline
  · exact h line hline
  · simp [List.mem_singleton.mp hline]

end Lines

end Text

namespace Outline

open Text

theorem dropComments_unlines {ls : List (List Char)}
    (h : ∀ line ∈ ls, '\n' ∉ line ∧ '/' ∉ line ∧ ∃ c ∈ line, isBlank c = false)
    (newlineAtEnd : Bool) :
    dropComments (String.ofList (unlines ls ++ ending newlineAtEnd)) =
      String.ofList (unlines ls) := by
  have hkept : ls.filter (fun line => !(trim line).isEmpty && !isCommentLine line) = ls := by
    rw [List.filter_eq_self]
    intro line hline
    obtain ⟨-, hslash, c, hc, hmark⟩ := h line hline
    have htrim : trim line ≠ [] := by
      intro htrim
      rw [trim_eq_nil_iff.mp htrim c hc] at hmark
      exact Bool.noConfusion hmark
    simp [not_isCommentLine hslash, htrim]
  have hnewline : ∀ line ∈ ls, '\n' ∉ line := fun line hline => (h line hline).1
  rw [dropComments, String.toList_ofList]
  by_cases hne : ls = []
  · subst hne
    cases newlineAtEnd <;> rfl
  · cases newlineAtEnd with
    | false =>
      rw [ending, if_neg Bool.false_ne_true, List.append_nil, lines_unlines hne hnewline, hkept]
    | true =>
      rw [ending, if_pos rfl, lines_unlines_newline hne hnewline, List.filter_append, hkept]
      simp

end Outline

end Autocomplete
