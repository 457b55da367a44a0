import Autocomplete.Document
import Autocomplete.Proofs.Scan.Ahead
import Autocomplete.Proofs.Words.Windows

/-!
# Three readings of the same words

The words of a text are read by one scan after another, found by a rule that saves a word, and asked
for at an offset of a document. The first two go forward from the start of the text, the third in
both directions from any offset, its ends and the edges of words included. All three see the longest
runs of name characters. Such runs never touch each other, so that each offset touches one at most.
-/

namespace Autocomplete

open Scan Text

namespace Words

variable {text : Array Char} {v w : Window} {offset : Nat}

/-! ### Words do not touch each other -/

/-- Between two windows stands a character that belongs to no word. -/
def Separated (text : Array Char) (v w : Window) : Prop :=
  ∃ i, v.stop ≤ i ∧ i < w.start ∧ charAtSatisfies text isNameChar i = false

theorem IsLongest.separated (hv : IsLongest text v) (hw : IsLongest text w)
    (h : v.start < w.start) : Separated text v w := by
  refine ⟨v.stop, Nat.le_refl _, ?_, hv.ends⟩
  by_contra hle
  -- Otherwise the character before the later word lies in the earlier one.
  have hinside := hv.all.2 (w.start - 1) (by omega) (by omega)
  have hbefore := hw.starts (w.start - 1) (by omega)
  exact Bool.false_ne_true (hbefore.symm.trans hinside)

theorem pairwise_separated (text : Array Char) : (windows text).Pairwise (Separated text) := by
  apply (pairwise_windows text).imp_of_mem
  intro v w hv hw h
  exact (isLongest_of_mem_windows hv).separated (isLongest_of_mem_windows hw) h

theorem IsLongest.eq_of_touches (hv : IsLongest text v) (hw : IsLongest text w)
    (hvoffset : v.start ≤ offset ∧ offset ≤ v.stop)
    (hwoffset : w.start ≤ offset ∧ offset ≤ w.stop) : v = w := by
  rcases Nat.lt_trichotomy v.start w.start with hlt | heq | hgt
  · obtain ⟨i, hi, hi', -⟩ := hv.separated hw hlt
    omega
  · have hvstop := hv.all.runEnd_eq hv.ends hv.within
    have hwstop := hw.all.runEnd_eq hw.ends hw.within
    rw [heq, hwstop] at hvstop
    cases v
    cases w
    simp_all
  · obtain ⟨i, hi, hi', -⟩ := hw.separated hv hgt
    omega

/-! ### Scans that check their windows -/

/-- The words of a text, unless a scan refuses the window that it is given. -/
def windowsChecked (text : String) : Option (List Window) := do
  let (found, _) ← sweepChecked (fun pos => do
    match ← ((Probe.run .word false).scanIn text ⟨pos, text.length⟩).toOption with
    | .hit w => return ([w], w.stop)
    | _ => return ([], pos)) 0 text.length
  return found

theorem windowsChecked_eq (text : String) :
    windowsChecked text = some (windows text.toList.toArray) := by
  have hsize : text.toList.toArray.size = text.length := by
    rw [List.size_toArray, String.length_toList]
  have hvisit : ∀ pos, 0 ≤ pos → pos < text.length →
      (do
        match ← ((Probe.run .word false).scanIn text ⟨pos, text.length⟩).toOption with
        | .hit w => return ([w], w.stop)
        | _ => return ([], pos) : Option (List Window × Nat)) =
      some (match (Probe.run .word false).scan text.toList.toArray ⟨pos, text.length⟩ with
        | .hit w => ([w], w.stop)
        | _ => ([], pos)) := by
    intro pos _ hlt
    have hwithin : Window.Within ⟨pos, text.length⟩ text.length :=
      ⟨Nat.le_of_lt hlt, Nat.le_refl _⟩
    rw [Probe.scanIn_of_within _ hwithin]
    simp only [Except.toOption, Option.bind_eq_bind, Option.bind_some]
    cases (Probe.run .word false).scan text.toList.toArray ⟨pos, text.length⟩ <;> rfl
  rw [windowsChecked, sweepChecked_eq hvisit, windows, hsize]
  rfl

/-! ### The rule that saves a word -/

/-- What the rule does at one position is what reading a word there does. -/
theorem follow_word_saving (text : Array Char) {pos : Nat} (hlt : pos < text.size) :
    follow [Step.word.saving] text [] ⟨pos, text.size⟩ =
      ((visitWord text pos).1.map fun w => [w.captured text], (visitWord text pos).2) := by
  by_cases hend : nameEnd text pos = pos
  · rw [follow_missing_word text [] [] hend, visitWord, if_pos hend]
    rfl
  · rw [follow_word text [] [] hlt rfl hend, visitWord, if_neg hend, follow_nil]
    simp [nameEnd]

theorem searchAll_word (text : Array Char) :
    searchAll [Step.word.saving] text = (windows text).map fun w => [w.captured text] := by
  have hvisit : ∀ pos, 0 ≤ pos → pos < text.size →
      follow [Step.word.saving] text [] ⟨pos + 0, text.size⟩ =
        ((visitWord text pos).1.map fun w => [w.captured text], (visitWord text pos).2 + 0) :=
    fun pos _ hlt => follow_word_saving text hlt
  rw [windows_eq]
  exact congrArg Prod.fst (sweep_map _ 0 hvisit)

end Words

/-! ### The word around an offset -/

namespace Document

open Words

variable {d : Document} {w : Window} {offset : Nat}

theorem wordAt_eq (h : offset ≤ d.length) :
    d.wordAt offset =
      ⟨runStart (charAtSatisfies d.chars isNameChar) offset, nameEnd d.chars offset⟩ := by
  rw [wordAt, rangeAround, Nat.min_eq_left h]
  rfl

theorem wordAt_touches (h : offset ≤ d.length) :
    (d.wordAt offset).start ≤ offset ∧ offset ≤ (d.wordAt offset).stop := by
  rw [wordAt_eq h]
  exact ⟨runStart_le _ _, le_runEnd _ _ _⟩

theorem not_name_before_wordAt (h : offset ≤ d.length) :
    ∀ i, i + 1 = (d.wordAt offset).start → charAtSatisfies d.chars isNameChar i = false := by
  rw [wordAt_eq h]
  intro i hi
  exact not_before_runStart hi.symm

theorem not_name_after_wordAt (h : offset ≤ d.length) :
    charAtSatisfies d.chars isNameChar (d.wordAt offset).stop = false := by
  rw [wordAt_eq h]
  exact charAtSatisfies_runEnd

theorem isLongest_wordAt (h : offset ≤ d.length)
    (hne : (d.wordAt offset).start < (d.wordAt offset).stop) :
    IsLongest d.chars (d.wordAt offset) where
  nonempty := hne
  starts := not_name_before_wordAt h
  ends := not_name_after_wordAt h
  within := by
    rw [wordAt_eq h]
    exact runEnd_le h
  all := by
    refine ⟨Nat.le_of_lt hne, ?_⟩
    rw [wordAt_eq h]
    intro i hstart hstop
    rcases Nat.lt_or_ge i offset with hbefore | hafter
    · exact of_runStart_le hstart hbefore
    · exact of_lt_runEnd hafter hstop h

theorem wordAt_nonempty (h : offset ≤ d.length) (hw : IsLongest d.chars w)
    (htouch : w.start ≤ offset ∧ offset ≤ w.stop) :
    (d.wordAt offset).start < (d.wordAt offset).stop := by
  obtain ⟨hstart, hstop⟩ := wordAt_touches h
  by_contra hempty
  have hwstart : (d.wordAt offset).start = offset := by omega
  have hwstop : (d.wordAt offset).stop = offset := by omega
  rcases Nat.lt_or_ge w.start offset with hbefore | hat
  · have hname := hw.all.2 (offset - 1) (by omega) (by omega)
    have hnot := not_name_before_wordAt h (offset - 1) (by omega)
    exact Bool.false_ne_true (hnot.symm.trans hname)
  · have hname := hw.all.2 offset htouch.1 (Nat.lt_of_le_of_lt hat hw.nonempty)
    have hnot := not_name_after_wordAt h
    rw [hwstop] at hnot
    exact Bool.false_ne_true (hnot.symm.trans hname)

theorem wordAt_eq_of_isLongest (h : offset ≤ d.length) (hw : IsLongest d.chars w)
    (htouch : w.start ≤ offset ∧ offset ≤ w.stop) : d.wordAt offset = w :=
  (isLongest_wordAt h (wordAt_nonempty h hw htouch)).eq_of_touches hw (wordAt_touches h) htouch

theorem wordAt_eq_empty (h : offset ≤ d.length)
    (hnone : ∀ w, IsLongest d.chars w → ¬(w.start ≤ offset ∧ offset ≤ w.stop)) :
    d.wordAt offset = ⟨offset, offset⟩ := by
  obtain ⟨hstart, hstop⟩ := wordAt_touches h
  have hempty : ¬(d.wordAt offset).start < (d.wordAt offset).stop :=
    fun hne => hnone _ (isLongest_wordAt h hne) ⟨hstart, hstop⟩
  have hwstart : (d.wordAt offset).start = offset := by omega
  have hwstop : (d.wordAt offset).stop = offset := by omega
  calc d.wordAt offset = ⟨(d.wordAt offset).start, (d.wordAt offset).stop⟩ := rfl
    _ = ⟨offset, offset⟩ := by rw [hwstart, hwstop]

/-- Both edges of a word see the word; a blank further on sees none. -/
example : ((ofString 0 "let  x").wordAt 0, (ofString 0 "let  x").wordAt 3,
    (ofString 0 "let  x").wordAt 4) = (⟨0, 3⟩, ⟨0, 3⟩, ⟨4, 4⟩) := by
  decide +kernel

/-- Each name character is in the word around it, and in no other one. -/
theorem existsUnique_word (d : Document) {i : Nat}
    (h : charAtSatisfies d.chars isNameChar i = true) :
    ∃! w, w ∈ windows d.chars ∧ w.start ≤ i ∧ i < w.stop := by
  have hi : i ≤ d.length := Nat.le_of_lt (lt_size_of_charAtSatisfies h)
  obtain ⟨hstart, hstop⟩ := wordAt_touches hi
  have hne : i ≠ (d.wordAt i).stop := by
    intro heq
    have hnot := not_name_after_wordAt hi
    rw [← heq] at hnot
    exact Bool.false_ne_true (hnot.symm.trans h)
  have hlt : i < (d.wordAt i).stop := Nat.lt_of_le_of_ne hstop hne
  refine ⟨d.wordAt i, ⟨?_, hstart, hlt⟩, ?_⟩
  · exact mem_windows_of_isLongest (isLongest_wordAt hi (Nat.lt_of_le_of_lt hstart hlt))
  · rintro w ⟨hw, hwstart, hwstop⟩
    have hlongest := isLongest_of_mem_windows hw
    exact (wordAt_eq_of_isLongest hi hlongest ⟨hwstart, Nat.le_of_lt hwstop⟩).symm

end Document

namespace Words

/-- The words of a text are read without fault, from left to right, and are exactly its longest runs
of name characters: every name character is in one of them, and any two are separated. The rule that
saves a word captures just their texts, in the same order. And the word around an offset of a
document with the text is the one word that touches the offset, or empty where no word does. -/
theorem notions_of_word_agree (text : String) (id : Nat) :
    let chars := text.toList.toArray
    windowsChecked text = some (windows chars) ∧
    (windows chars).Pairwise (fun v w => v.start < w.start ∧ Separated chars v w) ∧
    (∀ w, w ∈ windows chars ↔ StandsAt text (wordIn text w) w) ∧
    (∀ i, charAtSatisfies chars isNameChar i = true →
      ∃! w, w ∈ windows chars ∧ w.start ≤ i ∧ i < w.stop) ∧
    (Rule.ofSteps [Step.word.saving]).map (·.findAll text) =
      .ok ((windows chars).map fun w => [.text (wordIn text w)]) ∧
    ∀ offset ≤ text.length,
      (∀ w ∈ windows chars, w.start ≤ offset ∧ offset ≤ w.stop →
        (Document.ofString id text).wordAt offset = w) ∧
      ((∀ w ∈ windows chars, ¬(w.start ≤ offset ∧ offset ≤ w.stop)) →
        (Document.ofString id text).wordAt offset = ⟨offset, offset⟩) := by
  intro chars
  have hfound : searchAll [Step.word.saving] chars =
      (windows chars).map fun w => [.text (wordIn text w)] := searchAll_word chars
  refine ⟨windowsChecked_eq text, ?_, ?_, ?_, ?_, ?_⟩
  · exact (pairwise_windows chars).and (pairwise_separated chars)
  · intro w
    rw [standsAt_iff, eq_self, and_true]
  · intro i h
    exact (Document.ofString id text).existsUnique_word h
  · rw [← hfound]
    rfl
  · intro offset h
    have hlength : offset ≤ (Document.ofString id text).length := by
      rwa [Document.length_ofString]
    refine ⟨?_, ?_⟩
    · intro w hw htouch
      exact Document.wordAt_eq_of_isLongest hlength (isLongest_of_mem_windows hw) htouch
    · intro hnone
      apply Document.wordAt_eq_empty hlength
      intro w hw
      exact hnone w (mem_windows_of_isLongest hw)

end Words
end Autocomplete
