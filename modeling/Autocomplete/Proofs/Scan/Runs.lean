import Autocomplete.Proofs.Scan.Attempt

/-!
# Runs of characters

The longest run of one kind is the window that is full of such characters and has none after it. The
steps that read spaces and words read such runs, and go on after them.
-/

namespace Autocomplete
namespace Scan

open Text

/-- All characters of a window have a property. -/
def AllIn (text : Array Char) (p : Char → Bool) (w : Window) : Prop :=
  w.start ≤ w.stop ∧ ∀ i, w.start ≤ i → i < w.stop → charAtSatisfies text p i = true

def Window.captured (w : Window) (text : Array Char) : Capture :=
  .text (String.ofList (w.slice text).toList)

section

variable {text : Array Char} {p : Char → Bool} {start : Nat}

theorem lt_size_of_charAtSatisfies {i : Nat} (h : charAtSatisfies text p i = true) :
    i < text.size := by
  apply Nat.lt_of_not_le
  intro hle
  simp [charAtSatisfies, Array.getElem?_eq_none hle] at h

theorem allIn_runEnd (h : start ≤ text.size) :
    AllIn text p ⟨start, runEnd (charAtSatisfies text p) start text.size⟩ :=
  ⟨le_runEnd _ _ _, fun _ hi hlt => of_lt_runEnd hi hlt h⟩

theorem charAtSatisfies_runEnd :
    charAtSatisfies text p (runEnd (charAtSatisfies text p) start text.size) = false := by
  cases hend : charAtSatisfies text p (runEnd (charAtSatisfies text p) start text.size) with
  | false => rfl
  | true =>
    have hnot := not_runEnd (lt_size_of_charAtSatisfies hend)
    exact hend.symm.trans hnot

theorem AllIn.runEnd_eq {w : Window} (h : AllIn text p w)
    (hend : charAtSatisfies text p w.stop = false) (hstop : w.stop ≤ text.size) :
    runEnd (charAtSatisfies text p) w.start text.size = w.stop :=
  runEnd_unique h.1 hstop h.2 fun _ => hend

theorem AllIn.stop_le_size {w : Window} (h : AllIn text p w) (hlt : w.start < w.stop) :
    w.stop ≤ text.size := by
  have hlast := h.2 (w.stop - 1) (Nat.le_sub_one_of_lt hlt) (Nat.sub_one_lt_of_lt hlt)
  exact Nat.le_of_pred_lt (lt_size_of_charAtSatisfies hlast)

theorem AllIn.all_slice {w : Window} (h : AllIn text p w) : (w.slice text).toList.all p = true := by
  rw [List.all_eq_true]
  intro c hc
  obtain ⟨i, hi, rfl⟩ := List.getElem_of_mem hc
  have hlt : i < min (w.stop - w.start) (text.size - w.start) := by
    simpa [Window.slice] using hi
  have hread := h.2 (w.start + i) (by omega) (by omega)
  simpa [charAtSatisfies, Window.slice, lt_size_of_charAtSatisfies hread] using hread

theorem AllIn.slice_ne_nil {w : Window} (h : AllIn text p w) (hlt : w.start < w.stop) :
    (w.slice text).toList ≠ [] := by
  have hsize := lt_size_of_charAtSatisfies (h.2 w.start (Nat.le_refl _) hlt)
  rw [← List.length_pos_iff, Array.length_toList, Window.slice, Array.size_extract]
  omega

theorem isScanSpace_of_isNameChar {c : Char} (h : isNameChar c = true) : isScanSpace c = false := by
  cases hspace : isScanSpace c with
  | false => rfl
  | true =>
    simp only [isScanSpace, Bool.or_eq_true, beq_iff_eq] at hspace
    rcases hspace with (rfl | rfl) | rfl <;> revert h <;> decide

theorem charAtSatisfies_of_imp {q : Char → Bool} (hpq : ∀ c, p c = true → q c = true) {i : Nat}
    (h : charAtSatisfies text p i = true) : charAtSatisfies text q i = true := by
  obtain ⟨c, hchar, hc⟩ := (Option.any_eq_true _ _).mp h
  exact (Option.any_eq_true _ _).mpr ⟨c, hchar, hpq c hc⟩

theorem not_charAtSatisfies_of_imp {q : Char → Bool} (hpq : ∀ c, p c = true → q c = false)
    {i : Nat} (h : charAtSatisfies text p i = true) : charAtSatisfies text q i = false := by
  unfold charAtSatisfies at h ⊢
  cases hchar : text[i]? with
  | none => rfl
  | some c =>
    rw [hchar] at h
    exact hpq c h

/-- Spaces end where a word begins. -/
theorem not_space_of_charAtSatisfies {i : Nat} (h : charAtSatisfies text isNameChar i = true) :
    charAtSatisfies text isScanSpace i = false :=
  not_charAtSatisfies_of_imp (fun _ => isScanSpace_of_isNameChar) h

end

section

variable (text : Array Char) (before : List Capture) {start stop e : Nat}

theorem follow_spaces (s : Step) (rest : List Step) (hle : start ≤ stop)
    (he : runEnd (charAtSatisfies text isScanSpace) start stop = e) :
    follow (Step.spaces :: s :: rest) text before ⟨start, stop⟩ =
      ((follow (s :: rest) text before ⟨e, stop⟩).1,
        max (follow (s :: rest) text before ⟨e, stop⟩).2 e) := by
  rcases Nat.eq_or_lt_of_le hle with rfl | hlt
  · obtain rfl : start = e := by
      have hstart := le_runEnd (charAtSatisfies text isScanSpace) start start
      have hstop := runEnd_le (p := charAtSatisfies text isScanSpace) (Nat.le_refl start)
      omega
    simp [follow_cons, Step.attempts_of_isEmpty]
  · have hscan : Step.spaces.probe.scan text ⟨start, stop⟩ = .hit ⟨start, e⟩ := by
      subst he
      simp only [Step.spaces, Step.run, Step.plain, Probe.scan, Bool.not_true, Bool.and_false]
      rfl
    have hkept : Step.spaces.kept (record Step.spaces) text ⟨start, e⟩ = [] := rfl
    have hwindow : Step.spaces.windowAfter ⟨start, e⟩ stop = ⟨e, stop⟩ := rfl
    rw [follow_cons, Step.attempts_of_not_looping rfl hlt, Step.attempt_of_hit _ _ hscan, hkept,
      List.append_nil, hwindow]

section

variable {kind : CharKind} {p : Char → Bool} (hkind : ∀ isFirst c, kind.accepts isFirst c = p c)

include hkind

theorem scan_run_of_kind (he : runEnd (charAtSatisfies text p) start stop = e) :
    (Probe.run kind false).scan text ⟨start, stop⟩ =
      if e = start then .miss start else .hit ⟨start, e⟩ := by
  have hparts : (fun i => charAtSatisfies text (kind.accepts (i == start)) i) =
      charAtSatisfies text p := by
    funext i
    rw [funext (hkind _)]
  rw [Probe.scan]
  dsimp only
  rw [hparts, he, Bool.not_false, Bool.and_true]
  by_cases hempty : e = start <;> simp [hempty]

theorem follow_missing_run (rest : List Step)
    (he : runEnd (charAtSatisfies text p) start stop = start) :
    follow ((Step.run kind false).saving :: rest) text before ⟨start, stop⟩ = ([], start) := by
  by_cases hlt : start < stop
  · have hscan : (Step.run kind false).saving.probe.scan text ⟨start, stop⟩ = .miss start := by
      have hrun := scan_run_of_kind text hkind he
      rwa [if_pos rfl] at hrun
    rw [follow_cons, Step.attempts_of_not_looping rfl hlt, Step.attempt_of_miss _ _ hscan]
  · rw [follow_cons, Step.attempts_of_isEmpty (Nat.le_of_not_lt hlt)]

theorem follow_run (rest : List Step) (hlt : start < stop)
    (he : runEnd (charAtSatisfies text p) start stop = e) (hne : e ≠ start) :
    follow ((Step.run kind false).saving :: rest) text before ⟨start, stop⟩ =
      ((follow rest text (before ++ [Window.captured ⟨start, e⟩ text]) ⟨e, stop⟩).1,
        max (follow rest text (before ++ [Window.captured ⟨start, e⟩ text]) ⟨e, stop⟩).2 e) := by
  have hscan : (Step.run kind false).saving.probe.scan text ⟨start, stop⟩ = .hit ⟨start, e⟩ := by
    have hrun := scan_run_of_kind text hkind he
    rwa [if_neg hne] at hrun
  rw [follow_cons, Step.attempts_of_not_looping rfl hlt, Step.attempt_of_hit _ _ hscan]
  rfl

end

theorem follow_missing_word (rest : List Step)
    (he : runEnd (charAtSatisfies text isNameChar) start stop = start) :
    follow (Step.word.saving :: rest) text before ⟨start, stop⟩ = ([], start) :=
  follow_missing_run text before (fun _ _ => rfl) rest he

theorem follow_word (rest : List Step) (hlt : start < stop)
    (he : runEnd (charAtSatisfies text isNameChar) start stop = e) (hne : e ≠ start) :
    follow (Step.word.saving :: rest) text before ⟨start, stop⟩ =
      ((follow rest text (before ++ [Window.captured ⟨start, e⟩ text]) ⟨e, stop⟩).1,
        max (follow rest text (before ++ [Window.captured ⟨start, e⟩ text]) ⟨e, stop⟩).2 e) :=
  follow_run text before (fun _ _ => rfl) rest hlt he hne

end

end Scan
end Autocomplete
