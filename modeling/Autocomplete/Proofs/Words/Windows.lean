import Autocomplete.Proofs.Scan.Runs
import Autocomplete.Words.Extract
import Mathlib.Data.List.Basic

/-!
# The words of a text are its longest runs

Words are read from left to right, each to its end, and where none begins one character is passed
over. So a word is never entered in its middle: what is read is a longest run of name characters. No
such run is passed over, and they are read in the order of the text.
-/

namespace Autocomplete

open Scan Text

/-- A nonempty run of characters of one kind, which goes on neither before nor after it. -/
structure IsRun (p : Char → Bool) (before run after : List Char) : Prop where
  nonempty : run ≠ []
  full : run.all p = true
  starts : before.getLast?.any p = false
  ends : after.head?.any p = false

/-- A run is one of another kind as well if the two kinds are the same in the text. -/
theorem IsRun.congr {p q : Char → Bool} {before run after : List Char}
    (h : IsRun p before run after) (hsame : ∀ c ∈ before ++ (run ++ after), p c = q c) :
    IsRun q before run after := by
  obtain ⟨hne, hfull, hstarts, hends⟩ := h
  refine ⟨hne, ?_, ?_, ?_⟩
  · rw [List.all_eq_true] at hfull ⊢
    intro c hc
    rw [← hsame c (by simp [hc])]
    exact hfull c hc
  · cases hlast : before.getLast? with
    | none => rfl
    | some c =>
      have hc : c ∈ before := List.mem_of_getLast? hlast
      simpa [hlast, hsame c (by simp [hc])] using hstarts
  · cases hhead : after.head? with
    | none => rfl
    | some c =>
      have hc : c ∈ after := List.mem_of_head? hhead
      simpa [hhead, hsame c (by simp [hc])] using hends

namespace Words

variable {text : Array Char} {w : Window}

/-- The text of a window with what stands before and after it is the whole text. -/
theorem take_append_slice_append_drop (text : Array Char) (h : w.start ≤ w.stop) :
    text.toList.take w.start ++ ((w.slice text).toList ++ text.toList.drop w.stop) =
      text.toList := by
  obtain ⟨n, hn⟩ := Nat.exists_eq_add_of_le h
  rw [Window.slice, Array.toList_extract, List.extract_eq_take_drop, hn, Nat.add_sub_cancel_left,
    ← List.drop_drop, List.take_append_drop, List.take_append_drop]

structure IsLongest (text : Array Char) (w : Window) : Prop where
  all : AllIn text isNameChar w
  nonempty : w.start < w.stop
  within : w.stop ≤ text.size
  starts : ∀ i, i + 1 = w.start → charAtSatisfies text isNameChar i = false
  ends : charAtSatisfies text isNameChar w.stop = false

theorem IsLongest.isRun (h : IsLongest text w) :
    IsRun isNameChar (text.toList.take w.start) (w.slice text).toList
      (text.toList.drop w.stop) := by
  obtain ⟨hall, hlt, hstop, hstarts, hends⟩ := h
  refine ⟨hall.slice_ne_nil hlt, hall.all_slice, ?_, ?_⟩
  · cases hstart : w.start with
    | zero => simp
    | succ i =>
      have hin : i < text.toList.length := by simp; omega
      have hbefore := hstarts i hstart.symm
      have hread : text.toList[i]? = some text.toList[i] := List.getElem?_eq_getElem hin
      rw [charAtSatisfies, ← Array.getElem?_toList, hread] at hbefore
      rw [List.take_add_one, hread]
      simpa using hbefore
  · simpa [charAtSatisfies] using hends

def nameEnd (text : Array Char) (pos : Nat) : Nat :=
  runEnd (charAtSatisfies text isNameChar) pos text.size

/-- What is read at one position: a word and where it ends, unless there is none. -/
def visitWord (text : Array Char) (pos : Nat) : List Window × Nat :=
  if nameEnd text pos = pos then ([], pos) else ([⟨pos, nameEnd text pos⟩], nameEnd text pos)

theorem windows_eq (text : Array Char) :
    windows text = (sweep (visitWord text) 0 text.size).1 := by
  apply congrArg Prod.fst
  apply sweep_congr
  intro pos _ _
  have hkind : (fun i => charAtSatisfies text (CharKind.word.accepts (i == pos)) i) =
    charAtSatisfies text isNameChar := rfl
  by_cases hend : nameEnd text pos = pos
  · simp_all [Probe.scan, visitWord, nameEnd]
  · simp_all [Probe.scan, visitWord, nameEnd]

/-- No word goes on from before a position. -/
def Fresh (text : Array Char) (pos : Nat) : Prop :=
  ∀ i, i + 1 = pos → charAtSatisfies text isNameChar i = true →
    charAtSatisfies text isNameChar pos = false

theorem fresh_next (text : Array Char) (pos : Nat) :
    Fresh text (max (visitWord text pos).2 (pos + 1)) := by
  have hnot : charAtSatisfies text isNameChar (nameEnd text pos) = false := charAtSatisfies_runEnd
  have hle : pos ≤ nameEnd text pos := le_runEnd _ _ _
  intro i hi hname
  by_cases hend : nameEnd text pos = pos
  · rw [visitWord, if_pos hend, Nat.max_eq_right (Nat.le_succ pos)] at hi
    obtain rfl : i = pos := by omega
    exact absurd hname (by simp [hend ▸ hnot])
  · rwa [visitWord, if_neg hend, Nat.max_eq_left (by simp only; omega)]

theorem isLongest_of_mem_visitWord {pos : Nat} (hlt : pos < text.size) (hfresh : Fresh text pos)
    (h : w ∈ (visitWord text pos).1) : IsLongest text w := by
  have hall : AllIn text isNameChar ⟨pos, nameEnd text pos⟩ := allIn_runEnd (Nat.le_of_lt hlt)
  by_cases hend : nameEnd text pos = pos
  · simp [visitWord, hend] at h
  · obtain rfl : w = ⟨pos, nameEnd text pos⟩ := by simpa [visitWord, hend] using h
    have hpos : pos < nameEnd text pos := by have := hall.1; simp only at this; omega
    refine ⟨hall, hpos, runEnd_le (Nat.le_of_lt hlt), ?_, charAtSatisfies_runEnd⟩
    -- The first character of the run is a name character, so the one before it is none.
    intro i hi
    by_contra hname
    have hfirst := hall.2 pos (Nat.le_refl _) hpos
    have hnone := hfresh i hi (by simpa using hname)
    exact absurd hfirst (by simp [hnone])

theorem isLongest_of_mem_windows (h : w ∈ windows text) : IsLongest text w := by
  have hstart : Fresh text 0 := by
    intro i hi
    omega
  rw [windows_eq] at h
  revert h
  revert hstart
  apply sweep_induction (visitWord text) (motive := fun pos r => Fresh text pos → w ∈ r.1 →
    IsLongest text w)
  · simp
  · intro pos r hlt ih hfresh h
    rcases List.mem_append.mp h with h | h
    · exact isLongest_of_mem_visitWord hlt hfresh h
    · exact ih (fresh_next text pos) h

theorem isRun_of_mem_windows (h : w ∈ windows text) :
    w.start ≤ w.stop ∧
      IsRun isNameChar (text.toList.take w.start) (w.slice text).toList
        (text.toList.drop w.stop) := by
  have hlongest := isLongest_of_mem_windows h
  exact ⟨hlongest.all.1, hlongest.isRun⟩

/-! ### All words are read, from left to right -/

theorem snd_visitWord (text : Array Char) (pos : Nat) :
    (visitWord text pos).2 = nameEnd text pos := by
  unfold visitWord
  split <;> simp_all

/-- What is read before a word that no name character precedes ends before it. -/
theorem nameEnd_lt_start {pos : Nat} (hlt : pos < w.start) (hsize : w.start ≤ text.size)
    (hstarts : ∀ i, i + 1 = w.start → charAtSatisfies text isNameChar i = false) :
    nameEnd text pos < w.start := by
  by_contra hle
  have hin : pos ≤ w.start - 1 := by omega
  have hinside : w.start - 1 < runEnd (charAtSatisfies text isNameChar) pos text.size := by
    unfold nameEnd at hle
    omega
  have hlast := of_lt_runEnd hin hinside (by omega)
  have hnot := hstarts (w.start - 1) (by omega)
  exact absurd hlast (by simp [hnot])

/-- No longest run of name characters is passed over. -/
theorem mem_windows_of_isLongest (h : IsLongest text w) : w ∈ windows text := by
  have hend : nameEnd text w.start = w.stop := h.all.runEnd_eq h.ends h.within
  have hnonempty := h.nonempty
  have hstop := h.within
  rw [windows_eq]
  apply sweep_induction (visitWord text) (motive := fun pos r => pos ≤ w.start → w ∈ r.1) _ _ 0
    (Nat.zero_le _)
  · intro pos hpos hle
    omega
  · intro pos r hpos ih hle
    rcases Nat.eq_or_lt_of_le hle with rfl | hbefore
    · have hread : visitWord text w.start = ([w], w.stop) := by
        rw [visitWord, hend, if_neg (Nat.ne_of_gt hnonempty)]
      rw [hread]
      exact List.mem_append_left _ (List.mem_singleton.mpr rfl)
    · have hread := nameEnd_lt_start hbefore (by omega) h.starts
      rw [snd_visitWord] at ih
      exact List.mem_append_right _ (ih (by omega))

theorem pairwise_windows (text : Array Char) :
    (windows text).Pairwise fun v w => v.start < w.start := by
  rw [windows_eq]
  have hsweep : (∀ w ∈ (sweep (visitWord text) 0 text.size).1, 0 ≤ w.start) ∧
      (sweep (visitWord text) 0 text.size).1.Pairwise fun v w => v.start < w.start := by
    apply sweep_induction (visitWord text) (motive := fun pos r =>
      (∀ w ∈ r.1, pos ≤ w.start) ∧ r.1.Pairwise fun v w => v.start < w.start)
    · simp
    · rintro pos r - ⟨hafter, hlater⟩
      have hfound : ∀ v ∈ (visitWord text pos).1, v.start = pos := by
        unfold visitWord
        split <;> simp
      have hone : (visitWord text pos).1.Pairwise fun v w => v.start < w.start := by
        unfold visitWord
        split <;> simp
      refine ⟨?_, List.pairwise_append.mpr ⟨hone, hlater, ?_⟩⟩
      · intro w hw
        rcases List.mem_append.mp hw with hw | hw
        · exact Nat.le_of_eq (hfound w hw).symm
        · have := hafter w hw
          omega
      · intro v hv w hw
        have hv := hfound v hv
        have hw := hafter w hw
        omega
  exact hsweep.2

/-! ### The words of a text -/

/-- A word stands in a text, as a longest run of name characters. -/
def StandsAt (text word : String) (w : Window) : Prop :=
  ∃ before after, text.toList = before ++ (word.toList ++ after) ∧
    IsRun isNameChar before word.toList after ∧ w = ⟨before.length, before.length + word.length⟩

/-- What a text reads in a window. -/
def wordIn (text : String) (w : Window) : String :=
  String.ofList (w.slice text.toList.toArray).toList

theorem mem_windows_of_isRun {before run after : List Char}
    (h : IsRun isNameChar before run after) :
    (⟨before.length, before.length + run.length⟩ : Window) ∈
      windows (before ++ (run ++ after)).toArray := by
  obtain ⟨hne, hfull, hstarts, hends⟩ := h
  rw [List.all_eq_true] at hfull
  have hpos : 0 < run.length := List.length_pos_iff.mpr hne
  apply mem_windows_of_isLongest
  refine ⟨⟨Nat.le_add_right _ _, ?_⟩, ?_, ?_, ?_, ?_⟩
  · intro i hle hlt
    obtain ⟨k, rfl⟩ := Nat.exists_eq_add_of_le hle
    have hk : k < run.length := by simp only at hlt; omega
    have hread : (before ++ (run ++ after))[before.length + k]? = some run[k] := by
      rw [List.getElem?_append_right (Nat.le_add_right _ _), Nat.add_sub_cancel_left,
        List.getElem?_append_left hk, List.getElem?_eq_getElem hk]
    simpa [charAtSatisfies, hread] using hfull _ (List.getElem_mem hk)
  · simp only
    omega
  · simp only [List.size_toArray, List.length_append]
    omega
  · intro i hi
    have hread : (before ++ (run ++ after))[i]? = before.getLast? := by
      rw [List.getElem?_append_left (by simp only at hi; omega), List.getLast?_eq_getElem?]
      congr 1
      simp only at hi
      omega
    simpa [charAtSatisfies, hread] using hstarts
  · have hread : (before ++ (run ++ after))[before.length + run.length]? = after.head? := by
      rw [← List.append_assoc, ← List.length_append, List.getElem?_append_right (Nat.le_refl _),
        Nat.sub_self, List.head?_eq_getElem?]
    simpa [charAtSatisfies, hread] using hends

theorem wordIn_of_standsAt {text word : String} (h : StandsAt text word w) :
    wordIn text w = word := by
  obtain ⟨before, after, htext, -, rfl⟩ := h
  have hslice : (before ++ (word.toList ++ after)).extract before.length
      (before.length + word.length) = word.toList := by
    rw [List.extract_eq_take_drop, Nat.add_sub_cancel_left, List.drop_left, ← String.length_toList,
      List.take_left]
  rw [wordIn, Window.slice, htext, Array.toList_extract, hslice, String.ofList_toList]

theorem standsAt_iff {text word : String} :
    StandsAt text word w ↔ w ∈ windows text.toList.toArray ∧ wordIn text w = word := by
  constructor
  · intro h
    refine ⟨?_, wordIn_of_standsAt h⟩
    obtain ⟨before, after, htext, hrun, rfl⟩ := h
    rw [htext, ← String.length_toList]
    exact mem_windows_of_isRun hrun
  · rintro ⟨h, rfl⟩
    obtain ⟨hle, hrun⟩ := isRun_of_mem_windows h
    have hstop : w.stop ≤ text.length := by
      have := (isLongest_of_mem_windows h).within
      rwa [List.size_toArray, String.length_toList] at this
    refine ⟨text.toList.take w.start, text.toList.drop w.stop, ?_, ?_, ?_⟩
    · rw [wordIn, String.toList_ofList]
      exact (take_append_slice_append_drop text.toList.toArray hle).symm
    · rwa [wordIn, String.toList_ofList]
    · have hsize : (wordIn text w).length = w.stop - w.start := by
        simp only [wordIn, String.length_ofList, Array.length_toList, Window.slice,
          Array.size_extract, List.size_toArray, String.length_toList]
        omega
      rw [hsize, List.length_take, String.length_toList, Nat.min_eq_left (by omega),
        Nat.add_sub_cancel' hle]

end Words
end Autocomplete
