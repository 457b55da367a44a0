import Autocomplete.Proofs.Document.Cursor

/-!
# The line of an offset

A line begins after a line break and goes on to the next one, where a carriage return and the
newline after it are one break. The line of an offset is the last one that begins up to the offset,
freed of the carriage returns and newlines at its end. Where newlines are the only line breaks, this
is the longest range around the offset without a newline.
-/

namespace Autocomplete
namespace Document

open Scan

/-- A line break: a carriage return with the newline after it, or another character that ends a
line. -/
inductive LineBreak (d : Document) : Window → Prop
  | pair {i : Nat} (first : d.char? i = some '\r') (second : d.char? (i + 1) = some '\n') :
      LineBreak d ⟨i, i + 2⟩
  | single {i : Nat} {c : Char} (read : d.char? i = some c) (breaks : isLineBreak c = true)
      (notFirst : ¬(c = '\r' ∧ d.char? (i + 1) = some '\n'))
      (notSecond : ∀ j, j + 1 = i → ¬(d.char? j = some '\r' ∧ c = '\n')) : LineBreak d ⟨i, i + 1⟩

/-- The line after that of an offset starts after the first line break that ends behind the offset.
If there is none, the text ends there. -/
structure NextLine (d : Document) (offset next : Nat) : Prop where
  starts : (offset < next ∧ ∃ w, d.LineBreak w ∧ w.stop = next) ∨ next = d.length
  first : ∀ w, d.LineBreak w → offset < w.stop → next ≤ w.stop

variable {d : Document} {offset i : Nat}

theorem charSatisfies_iff {p : Char → Bool} :
    d.charSatisfies p i = true ↔ ∃ c, d.char? i = some c ∧ p c = true :=
  Option.any_eq_true _ _

theorem LineBreak.start_lt_stop {w : Window} (h : d.LineBreak w) : w.start < w.stop := by
  cases h with
  | pair => exact Nat.lt_add_of_pos_right Nat.two_pos
  | single => exact Nat.lt_succ_self _

/-- Lines start at the start of the text and after the line breaks. -/
theorem isLineStart_iff :
    d.isLineStart offset = true ↔ offset = 0 ∨ ∃ w, d.LineBreak w ∧ w.stop = offset := by
  cases offset with
  | zero => simp [isLineStart]
  | succ i =>
    simp only [isLineStart, Bool.and_eq_true, Bool.not_eq_true', Bool.and_eq_false_iff,
      charSatisfies_iff, beq_eq_false_iff_ne, Nat.succ_ne_zero, false_or]
    constructor
    · rintro ⟨⟨c, hread, hbreaks⟩, hnot⟩
      by_cases hsecond : ∃ j, j + 1 = i ∧ d.char? j = some '\r' ∧ c = '\n'
      · obtain ⟨j, rfl, hreturn, rfl⟩ := hsecond
        exact ⟨_, .pair hreturn hread, rfl⟩
      · refine ⟨_, .single hread hbreaks ?_ ?_, rfl⟩
        · rintro ⟨rfl, hnewline⟩
          simp_all
        · rintro j rfl h
          exact hsecond ⟨j, rfl, h⟩
    · rintro ⟨w, hw, hstop⟩
      cases hw with
      | @pair k first second =>
        obtain rfl : k + 1 = i := by simpa using hstop
        refine ⟨⟨'\n', second, by decide⟩, .inl ?_⟩
        simp [second]
      | @single k c read breaks notFirst notSecond =>
        obtain rfl : k = i := by simpa using hstop
        refine ⟨⟨c, read, breaks⟩, ?_⟩
        rw [read]
        by_contra hboth
        exact notFirst (by simpa using hboth)

/-- The start of the line after that of an offset. -/
def nextLineStart (d : Document) (offset : Nat) : Nat :=
  (firstIn? d.isLineStart (offset + 1) d.length).getD d.length

theorem nextLine_nextLineStart (d : Document) (offset : Nat) :
    d.NextLine offset (d.nextLineStart offset) := by
  have hstop : ∀ w, d.LineBreak w → d.isLineStart w.stop = true :=
    fun w hw => isLineStart_iff.mpr (.inr ⟨w, hw, rfl⟩)
  unfold nextLineStart
  cases h : firstIn? d.isLineStart (offset + 1) d.length with
  | none =>
    refine ⟨.inr rfl, fun w hw hlt => ?_⟩
    by_contra hle
    have hnot := firstIn?_eq_none h w.stop hlt (Nat.lt_of_not_le hle)
    exact Bool.false_ne_true (hnot.symm.trans (hstop w hw))
  | some next =>
    obtain ⟨hlt, -, hstart, hnone⟩ := firstIn?_eq_some h
    refine ⟨.inl ⟨hlt, ?_⟩, fun w hw hlt' => ?_⟩
    · exact (isLineStart_iff.mp hstart).resolve_left (Nat.ne_of_gt (Nat.zero_lt_of_lt hlt))
    · by_contra hle
      have hnot := hnone w.stop hlt' (Nat.lt_of_not_le hle)
      exact Bool.false_ne_true (hnot.symm.trans (hstop w hw))

theorem le_nextLineStart (h : offset ≤ d.length) : offset ≤ d.nextLineStart offset := by
  rcases (d.nextLine_nextLineStart offset).starts with ⟨hlt, -⟩ | hend
  · exact Nat.le_of_lt hlt
  · exact hend ▸ h

theorem nextLineStart_le (d : Document) (offset : Nat) : d.nextLineStart offset ≤ d.length := by
  unfold nextLineStart
  cases h : firstIn? d.isLineStart (offset + 1) d.length with
  | none => exact Nat.le_refl _
  | some next => exact Nat.le_of_lt (firstIn?_eq_some h).2.1

/-! ### The end of a line -/

/-- Whether a carriage return or a newline stands at an offset. -/
def isReturn (d : Document) (offset : Nat) : Bool :=
  d.charSatisfies (fun c => c == '\n' || c == '\r') offset

theorem isReturn_iff :
    d.isReturn i = true ↔ d.char? i = some '\r' ∨ d.char? i = some '\n' := by
  simp only [isReturn, charSatisfies_iff, Bool.or_eq_true, beq_iff_eq]
  grind

theorem lineAt_eq (d : Document) (offset : Nat) :
    d.lineAt offset =
      ⟨d.lineStart (min offset d.length),
        max (d.lineStart (min offset d.length))
          (runStart d.isReturn (d.nextLineStart (min offset d.length)))⟩ := rfl

theorem start_lineAt_le (d : Document) (offset : Nat) :
    (d.lineAt offset).start ≤ min offset d.length :=
  d.lineStart_le _

theorem stop_lineAt_le (d : Document) (offset : Nat) :
    (d.lineAt offset).stop ≤ d.nextLineStart (min offset d.length) := by
  have hstart := d.start_lineAt_le offset
  have hnext := le_nextLineStart (Nat.min_le_right offset d.length)
  exact Nat.max_le.mpr ⟨Nat.le_trans hstart hnext, runStart_le _ _⟩

theorem isReturn_of_stop_lineAt_le (offset : Nat) (hle : (d.lineAt offset).stop ≤ i)
    (hlt : i < d.nextLineStart (min offset d.length)) : d.isReturn i = true :=
  of_runStart_le (Nat.le_trans (Nat.le_max_right _ _) hle) hlt

theorem not_isReturn_before_stop_lineAt (offset : Nat) (h : (d.lineAt offset).start ≤ i)
    (hi : i + 1 = (d.lineAt offset).stop) : d.isReturn i = false := by
  have hstop : runStart d.isReturn (d.nextLineStart (min offset d.length)) = i + 1 := by
    rw [lineAt_eq] at h hi
    simp only at h hi
    omega
  exact not_before_runStart hstop

/-! ### Lines that end at newlines alone -/

theorem HasPlainLines.isLineStart_succ_iff (h : d.HasPlainLines) :
    d.isLineStart (i + 1) = true ↔ d.char? i = some '\n' := by
  constructor
  · intro hstart
    rw [isLineStart, Bool.and_eq_true, charSatisfies_iff] at hstart
    obtain ⟨⟨c, hread, hbreaks⟩, -⟩ := hstart
    have hmem : c ∈ d.chars.toList := Array.mem_toList_iff.mpr (Array.mem_of_getElem? hread)
    rcases isLineBreak_iff.mp hbreaks with rfl | hother
    · exact hread
    · exact absurd hmem (h c hother)
  · intro hread
    rw [char?, ← Array.getElem?_toList] at hread
    exact d.isLineStart_of_newline hread

theorem HasPlainLines.isReturn_iff_newline (h : d.HasPlainLines) :
    d.isReturn i = true ↔ d.char? i = some '\n' := by
  rw [isReturn_iff]
  constructor
  · rintro (hreturn | hnewline)
    · have hmem : '\r' ∈ d.chars.toList := Array.mem_toList_iff.mpr (Array.mem_of_getElem? hreturn)
      exact absurd hmem (h '\r' List.mem_cons_self)
    · exact hnewline
  · exact .inr

theorem HasPlainLines.lineStart_eq (h : d.HasPlainLines) (hle : offset ≤ d.length) :
    d.lineStart offset = runStart (d.charSatisfies (· != '\n')) offset := by
  induction offset with
  | zero => rfl
  | succ i ih =>
    obtain ⟨c, hread⟩ : ∃ c, d.char? i = some c := ⟨_, Array.getElem?_eq_getElem hle⟩
    rw [lineStart, runStart, ih (Nat.le_of_succ_le hle)]
    by_cases hc : c = '\n'
    · have hstart := h.isLineStart_succ_iff.mpr (hc ▸ hread)
      simp [hstart, charSatisfies, hread, hc]
    · have hstart : d.isLineStart (i + 1) = false := by
        rw [Bool.eq_false_iff, ne_eq, h.isLineStart_succ_iff, hread]
        simpa using hc
      simp [hstart, charSatisfies, hread, hc]

theorem HasPlainLines.isLineStart_succ_iff_isReturn (h : d.HasPlainLines) :
    d.isLineStart (i + 1) = true ↔ d.isReturn i = true :=
  h.isLineStart_succ_iff.trans h.isReturn_iff_newline.symm

theorem HasPlainLines.le_stop_lineAt (h : d.HasPlainLines) (offset : Nat) :
    min offset d.length ≤ (d.lineAt offset).stop := by
  have hstart := d.start_lineAt_le offset
  have hnext := le_nextLineStart (Nat.min_le_right offset d.length)
  have hordered : (d.lineAt offset).start ≤ (d.lineAt offset).stop := Nat.le_max_left _ _
  -- A newline between the end of the line and the offset would end the line before the offset.
  by_contra hlt
  obtain ⟨k, hk⟩ : ∃ k, min offset d.length = k + 1 := ⟨min offset d.length - 1, by omega⟩
  have hreturn : d.isReturn k = true := isReturn_of_stop_lineAt_le offset (by omega) (by omega)
  have hlater := h.isLineStart_succ_iff_isReturn.mpr hreturn
  have hle : k + 1 ≤ (d.lineAt offset).start := d.le_lineStart hlater (by omega)
  omega

theorem HasPlainLines.not_isReturn_of_lt_stop_lineAt (h : d.HasPlainLines)
    (hle : min offset d.length ≤ i) (hlt : i < (d.lineAt offset).stop) : d.isReturn i = false := by
  have hstart := d.start_lineAt_le offset
  have hstop := d.stop_lineAt_le offset
  -- The next line would start behind the newline, which would be cut off.
  by_contra hreturn
  have hlater := h.isLineStart_succ_iff_isReturn.mpr (eq_true_of_ne_false hreturn)
  obtain ⟨w, hw, hwstop⟩ := (isLineStart_iff.mp hlater).resolve_left (Nat.succ_ne_zero i)
  have hnext := (d.nextLine_nextLineStart (min offset d.length)).first w hw (by omega)
  exact hreturn (not_isReturn_before_stop_lineAt offset (by omega) (by omega))

theorem HasPlainLines.isReturn_stop_lineAt (h : d.HasPlainLines)
    (hlt : (d.lineAt offset).stop < d.length) : d.isReturn (d.lineAt offset).stop = true := by
  have hstart := d.start_lineAt_le offset
  rcases Nat.lt_or_eq_of_le (d.stop_lineAt_le offset) with hbefore | hat
  · exact isReturn_of_stop_lineAt_le offset (Nat.le_refl _) hbefore
  · -- The line cannot reach up to the next one, which starts behind a newline.
    have hstarts := (d.nextLine_nextLineStart (min offset d.length)).starts
    obtain ⟨hlater, w, hw, hwstop⟩ := hstarts.resolve_right (by omega)
    obtain ⟨k, hk⟩ : ∃ k, (d.lineAt offset).stop = k + 1 := ⟨(d.lineAt offset).stop - 1, by omega⟩
    have hbreak : d.isLineStart (k + 1) = true := isLineStart_iff.mpr (.inr ⟨w, hw, by omega⟩)
    have hreturn := h.isLineStart_succ_iff_isReturn.mp hbreak
    have hkept : d.isReturn k = false := not_isReturn_before_stop_lineAt offset (by omega) hk.symm
    exact absurd (hkept.symm.trans hreturn) Bool.false_ne_true

/-- A line goes on as far as there is no newline. -/
theorem HasPlainLines.stop_lineAt_eq (h : d.HasPlainLines) (offset : Nat) :
    (d.lineAt offset).stop =
      runEnd (d.charSatisfies (· != '\n')) (min offset d.length) d.length := by
  have hend : (d.lineAt offset).stop ≤ d.length :=
    Nat.le_trans (d.stop_lineAt_le offset) (d.nextLineStart_le _)
  have hnewline : ∀ i < d.length,
      d.charSatisfies (· != '\n') i = true ↔ d.isReturn i = false := by
    intro i hlt
    have hread : d.char? i = some d.chars[i] := Array.getElem?_eq_getElem hlt
    rw [Bool.eq_false_iff, ne_eq, h.isReturn_iff_newline]
    simp [charSatisfies, hread]
  symm
  apply runEnd_unique (h.le_stop_lineAt offset) hend
  · intro i hle hlt
    exact (hnewline i (by omega)).mpr (h.not_isReturn_of_lt_stop_lineAt hle hlt)
  · intro hlt
    rw [Bool.eq_false_iff, ne_eq, hnewline _ hlt, h.isReturn_stop_lineAt hlt]
    exact Bool.noConfusion

theorem HasPlainLines.lineAt_eq_plainLineAt (h : d.HasPlainLines) (offset : Nat) :
    d.lineAt offset = d.plainLineAt offset := by
  have hstart : (d.lineAt offset).start =
      runStart (d.charSatisfies (· != '\n')) (min offset d.length) :=
    h.lineStart_eq (Nat.min_le_right offset d.length)
  calc d.lineAt offset = ⟨(d.lineAt offset).start, (d.lineAt offset).stop⟩ := rfl
    _ = d.plainLineAt offset := by rw [hstart, h.stop_lineAt_eq]; rfl

/-- Where newlines are the only line breaks, the line of an offset is the longest range around it
without one. In any document it lies in the text and begins at the offset or before it, at the start
of the text or after a line break, no line break ends between its beginning and the offset, and up
to the next line only carriage returns and newlines follow it. -/
theorem line_of_offset_lies_between_breaks (d : Document) (offset : Nat) :
    (d.HasPlainLines → d.lineAt offset = d.plainLineAt offset) ∧
    (d.lineAt offset).start ≤ (d.lineAt offset).stop ∧ (d.lineAt offset).stop ≤ d.length ∧
    (d.lineAt offset).start ≤ min offset d.length ∧
    ((d.lineAt offset).start = 0 ∨ ∃ w, d.LineBreak w ∧ w.stop = (d.lineAt offset).start) ∧
    (∀ w, d.LineBreak w → (d.lineAt offset).start ≤ w.start → ¬w.stop ≤ min offset d.length) ∧
    ∃ next, d.NextLine (min offset d.length) next ∧ (d.lineAt offset).stop ≤ next ∧
      ∀ i, (d.lineAt offset).stop ≤ i → i < next →
        d.char? i = some '\r' ∨ d.char? i = some '\n' := by
  refine ⟨fun h => h.lineAt_eq_plainLineAt offset, Nat.le_max_left _ _, ?_,
    d.start_lineAt_le offset, ?_, ?_, ?_⟩
  · exact Nat.le_trans (d.stop_lineAt_le offset) (d.nextLineStart_le _)
  · exact isLineStart_iff.mp (d.isLineStart_lineStart _)
  · intro w hw hstart hstop
    have hbreak : d.isLineStart w.stop = true := isLineStart_iff.mpr (.inr ⟨w, hw, rfl⟩)
    have hle : w.stop ≤ (d.lineAt offset).start := d.le_lineStart hbreak hstop
    have hlt := hw.start_lt_stop
    omega
  · refine ⟨d.nextLineStart (min offset d.length), d.nextLine_nextLineStart _,
      d.stop_lineAt_le offset, ?_⟩
    intro i hle hlt
    exact isReturn_iff.mp (isReturn_of_stop_lineAt_le offset hle hlt)

/-- A document with an empty line between two others. -/
def spacedLines : Document := ofString 1 "let a\n\nlet b\n"

theorem line_of_offset_lies_between_breaks_on_empty_line :
    spacedLines.HasPlainLines ∧ spacedLines.LineBreak ⟨6, 7⟩ ∧
      spacedLines.lineAt 6 = spacedLines.plainLineAt 6 ∧ spacedLines.lineAt 6 = ⟨6, 6⟩ ∧
      ¬7 ≤ min 6 spacedLines.length := by
  have h : spacedLines.HasPlainLines := by decide +kernel
  have hbreak : spacedLines.LineBreak ⟨6, 7⟩ := by
    have hread : spacedLines.char? 6 = some '\n' := by decide +kernel
    have hbefore : spacedLines.char? 5 ≠ some '\r' := by decide +kernel
    refine .single hread (by decide) (by simp) ?_
    intro j hj
    obtain rfl : j = 5 := by omega
    exact fun hboth => hbefore hboth.1
  have hline : spacedLines.lineAt 6 = ⟨6, 6⟩ := by decide +kernel
  have hstart : (spacedLines.lineAt 6).start ≤ 6 := by rw [hline]
  obtain ⟨hplain, -, -, -, -, hnone, -⟩ := line_of_offset_lies_between_breaks spacedLines 6
  exact ⟨h, hbreak, hplain h, hline, hnone ⟨6, 7⟩ hbreak hstart⟩

/-- Between the halves of a line break the cursor is still in the line before it. -/
example :
    (ofString 1 "a\r\nb").lineAt 2 = ⟨0, 1⟩ ∧ (ofString 1 "a\r\nb").plainLineAt 2 = ⟨0, 2⟩ := by
  decide +kernel

end Document
end Autocomplete
