import Autocomplete.Proofs.Scan.Bounds
import Autocomplete.Proofs.Scan.Runs

/-!
# Bracket groups

A group reaches from its opening bracket to the first place at which as many brackets are closed as
opened. The scan for its end keeps the number of open groups only; that it ends where the counts of
the characters read so far agree is shown by one induction along the scan.
-/

namespace Autocomplete
namespace Scan

variable {text : Array Char} {opening closing : Char}

/-- How often a character stands in a window. -/
def Window.count (w : Window) (text : Array Char) (c : Char) : Nat := (w.slice text).toList.count c

/-- A balanced group of a text, its brackets included. -/
structure IsGroup (text : Array Char) (opening closing : Char) (g : Window) : Prop where
  within : g.stop ≤ text.size
  nonempty : g.start < g.stop
  opens : text[g.start]? = some opening
  balanced : g.count text opening = g.count text closing
  first : ∀ i, g.start < i → i < g.stop →
    Window.count ⟨g.start, i⟩ text opening ≠ Window.count ⟨g.start, i⟩ text closing

namespace Window

theorem count_empty (offset : Nat) (text : Array Char) (c : Char) :
    count ⟨offset, offset⟩ text c = 0 := by
  simp [count, slice]

theorem slice_cons {start stop : Nat} (h : start < stop) (text : Array Char) :
    (slice ⟨start, stop⟩ text).toList =
      text[start]?.toList ++ (slice ⟨start + 1, stop⟩ text).toList := by
  obtain ⟨n, rfl⟩ : ∃ n, stop = start + 1 + n := ⟨stop - (start + 1), by omega⟩
  have hlength : start + 1 + n - start = n + 1 := by omega
  have hlater : start + 1 + n - (start + 1) = n := by omega
  have hhead : text[start]? = (text.toList.drop start).head? := by
    rw [List.head?_drop, Array.getElem?_toList]
  simp only [slice, Array.toList_extract, List.extract_eq_take_drop, hlength, hlater, hhead]
  rw [← List.tail_drop]
  cases text.toList.drop start <;> simp

theorem count_cons {start stop : Nat} (h : start < stop) (text : Array Char) (c : Char) :
    count ⟨start, stop⟩ text c =
      (if text[start]? = some c then 1 else 0) + count ⟨start + 1, stop⟩ text c := by
  rw [count, slice_cons h, List.count_append, count]
  cases text[start]? with
  | none => simp
  | some d => by_cases hd : d = c <;> simp [hd]

end Window

/-- With `depth` groups open at `offset`, the last of them is closed just before `stop`. -/
structure ClosesAt (text : Array Char) (opening closing : Char) (depth offset stop : Nat) :
    Prop where
  lt : offset < stop
  balanced : Window.count ⟨offset, stop⟩ text opening + depth =
    Window.count ⟨offset, stop⟩ text closing
  first : ∀ i, offset < i → i < stop →
    Window.count ⟨offset, i⟩ text opening + depth ≠ Window.count ⟨offset, i⟩ text closing

/-- The number of groups open after the character at `offset`. -/
def depthAfter (text : Array Char) (opening closing : Char) (depth offset : Nat) : Nat :=
  if text[offset]? = some opening then depth + 1
  else if text[offset]? = some closing then depth - 1
  else depth

theorem closingEnd?_succ {depth offset count : Nat} (hdepth : 0 < depth) :
    closingEnd? text opening closing depth offset (count + 1) =
      if depthAfter text opening closing depth offset = 0 then some (offset + 1)
      else closingEnd? text opening closing (depthAfter text opening closing depth offset)
        (offset + 1) count := by
  unfold depthAfter
  rw [closingEnd?]
  split
  · rw [if_neg (Nat.succ_ne_zero depth)]
  · split
    · by_cases hle : depth ≤ 1
      · rw [if_pos hle, if_pos (by omega)]
      · rw [if_neg hle, if_neg (by omega)]
    · rw [if_neg (by omega)]

theorem not_closing_of_opening (hne : opening ≠ closing) {offset : Nat}
    (h : text[offset]? = some opening) : ¬text[offset]? = some closing :=
  fun hclose => hne (Option.some.inj (h.symm.trans hclose))

/-- One character moves both sides of the balance alike, whatever the character is. -/
theorem count_balance (hne : opening ≠ closing) {depth offset stop : Nat}
    (hdepth : 0 < depth ∨ text[offset]? = some opening) (h : offset < stop) :
    Window.count ⟨offset, stop⟩ text opening + depth = Window.count ⟨offset, stop⟩ text closing ↔
      Window.count ⟨offset + 1, stop⟩ text opening +
          depthAfter text opening closing depth offset =
        Window.count ⟨offset + 1, stop⟩ text closing := by
  rw [Window.count_cons h, Window.count_cons h, depthAfter]
  by_cases hopen : text[offset]? = some opening
  · rw [if_pos hopen, if_neg (not_closing_of_opening hne hopen), if_pos hopen]
    omega
  · have hpos : 0 < depth := hdepth.resolve_right hopen
    by_cases hclose : text[offset]? = some closing
    · rw [if_neg hopen, if_pos hclose, if_neg hopen, if_pos hclose]
      omega
    · rw [if_neg hopen, if_neg hclose, if_neg hopen, if_neg hclose]
      omega

theorem closesAt_iff (hne : opening ≠ closing) {depth offset stop : Nat}
    (hdepth : 0 < depth ∨ text[offset]? = some opening) :
    ClosesAt text opening closing depth offset stop ↔
      if depthAfter text opening closing depth offset = 0 then stop = offset + 1
      else ClosesAt text opening closing (depthAfter text opening closing depth offset)
        (offset + 1) stop := by
  have hnext : Window.count ⟨offset, offset + 1⟩ text opening + depth =
        Window.count ⟨offset, offset + 1⟩ text closing ↔
      depthAfter text opening closing depth offset = 0 := by
    rw [count_balance hne hdepth (Nat.lt_succ_self offset), Window.count_empty, Window.count_empty,
      Nat.zero_add]
  split
  · rename_i hzero
    constructor
    · intro h
      have hle : ¬offset + 1 < stop :=
        fun hlt => h.first _ (Nat.lt_succ_self _) hlt (hnext.mpr hzero)
      have hlt := h.lt
      omega
    · rintro rfl
      exact ⟨Nat.lt_succ_self _, hnext.mpr hzero, fun i hi hlt => by omega⟩
  · rename_i hpos
    constructor
    · intro h
      have hstop : stop ≠ offset + 1 := by
        rintro rfl
        exact hpos (hnext.mp h.balanced)
      have hlt := h.lt
      refine ⟨by omega, (count_balance hne hdepth hlt).mp h.balanced, ?_⟩
      intro i hi hi'
      rw [ne_eq, ← count_balance hne hdepth (by omega)]
      exact h.first i (by omega) hi'
    · intro h
      have hlt := h.lt
      refine ⟨by omega, (count_balance hne hdepth (by omega)).mpr h.balanced, ?_⟩
      intro i hi hi'
      rcases Nat.eq_or_lt_of_le (Nat.succ_le_of_lt hi) with rfl | hi''
      · exact fun heq => hpos (hnext.mp heq)
      · rw [ne_eq, count_balance hne hdepth hi]
        exact h.first i hi'' hi'

theorem closingEnd?_eq_some_iff (hne : opening ≠ closing) {depth offset count stop : Nat}
    (hdepth : 0 < depth) :
    closingEnd? text opening closing depth offset count = some stop ↔
      stop ≤ offset + count ∧ ClosesAt text opening closing depth offset stop := by
  induction count generalizing depth offset with
  | zero =>
    constructor
    · intro h
      exact absurd h (by simp [closingEnd?])
    · rintro ⟨hle, h⟩
      have hlt := h.lt
      omega
  | succ count ih =>
    rw [closingEnd?_succ hdepth, closesAt_iff hne (.inl hdepth)]
    split
    · rw [Option.some.injEq]
      omega
    · rename_i hpos
      have hcount : offset + 1 + count = offset + (count + 1) := by omega
      rw [ih (Nat.pos_of_ne_zero hpos), hcount]

/-- Before a group no group is open, and it ends where none is open again. -/
theorem isGroup_iff_closesAt {g : Window} :
    IsGroup text opening closing g ↔ g.stop ≤ text.size ∧ text[g.start]? = some opening ∧
      ClosesAt text opening closing 0 g.start g.stop := by
  constructor
  · intro h
    exact ⟨h.within, h.opens, h.nonempty, h.balanced, h.first⟩
  · rintro ⟨hle, hopen, hcloses⟩
    exact ⟨hle, hcloses.lt, hopen, hcloses.balanced, hcloses.first⟩

/-- The end of the group that opens at `start`, if it is closed before `stop`. -/
def groupEnd? (text : Array Char) (opening closing : Char) (start stop : Nat) : Option Nat :=
  if start < stop && text[start]? = some opening then
    closingEnd? text opening closing 1 (start + 1) (stop - (start + 1))
  else none

/-- Where a search goes on from when no group opens at `start`, or none that is closed. -/
def groupMissed (text : Array Char) (opening : Char) (start stop : Nat) : Nat :=
  if start < stop && text[start]? = some opening then stop else start

theorem groupEnd?_eq_some_iff (hne : opening ≠ closing) {start stop e : Nat}
    (hstop : stop ≤ text.size) :
    groupEnd? text opening closing start stop = some e ↔
      e ≤ stop ∧ IsGroup text opening closing ⟨start, e⟩ := by
  rw [isGroup_iff_closesAt, groupEnd?]
  by_cases hopen : start < stop ∧ text[start]? = some opening
  · obtain ⟨hlt, hopen⟩ := hopen
    have hsum : start + 1 + (stop - (start + 1)) = stop := by omega
    have hone : depthAfter text opening closing 0 start = 1 := if_pos hopen
    rw [if_pos (by simp [hlt, hopen]), closingEnd?_eq_some_iff hne Nat.one_pos, hsum,
      closesAt_iff hne (.inr hopen), hone, if_neg Nat.one_ne_zero]
    constructor
    · rintro ⟨hle, hcloses⟩
      exact ⟨hle, Nat.le_trans hle hstop, hopen, hcloses⟩
    · rintro ⟨hle, -, -, hcloses⟩
      exact ⟨hle, hcloses⟩
  · rw [if_neg (by simpa using hopen)]
    constructor
    · intro h
      simp at h
    · rintro ⟨hle, -, hchar, hcloses⟩
      exact absurd ⟨Nat.lt_of_lt_of_le hcloses.lt hle, hchar⟩ hopen

theorem lt_of_groupEnd? {start stop e : Nat}
    (h : groupEnd? text opening closing start stop = some e) : start < stop := by
  unfold groupEnd? at h
  split at h <;> simp_all

theorem start_lt_of_groupEnd? {start stop e : Nat}
    (h : groupEnd? text opening closing start stop = some e) : start < e := by
  unfold groupEnd? at h
  split at h
  · exact Nat.lt_of_succ_lt (closingEnd?_bounds h).1
  · exact absurd h.symm (Option.some_ne_none e)

theorem scan_bracket (text : Array Char) (opening closing : Char) (start stop : Nat) :
    (Probe.bracket opening closing).scan text ⟨start, stop⟩ =
      match groupEnd? text opening closing start stop with
      | some e => .hit ⟨start, e⟩
      | none => .miss (groupMissed text opening start stop) := by
  unfold groupMissed groupEnd? Probe.scan
  dsimp only
  split
  · split <;> simp_all
  · rfl

section

variable (text : Array Char) (before : List Capture) (rest : List Step) {start stop e : Nat}

theorem follow_group (h : groupEnd? text opening closing start stop = some e) :
    follow ((Step.bracket opening closing).saving :: rest) text before ⟨start, stop⟩ =
      ((follow rest text (before ++ [Window.captured ⟨start, e⟩ text]) ⟨e, stop⟩).1,
        max (follow rest text (before ++ [Window.captured ⟨start, e⟩ text]) ⟨e, stop⟩).2 e) := by
  have hlt : start < stop := lt_of_groupEnd? h
  have hscan := scan_bracket text opening closing start stop
  rw [h] at hscan
  rw [follow_cons, Step.attempts_of_not_looping rfl hlt,
    Step.attempt_of_hit (s := (Step.bracket opening closing).saving) _ _ hscan]
  rfl

theorem follow_missing_group (h : groupEnd? text opening closing start stop = none) :
    follow ((Step.bracket opening closing).saving :: rest) text before ⟨start, stop⟩ =
      ([], groupMissed text opening start stop) := by
  have hscan := scan_bracket text opening closing start stop
  rw [h] at hscan
  by_cases hlt : start < stop
  · rw [follow_cons, Step.attempts_of_not_looping rfl hlt,
      Step.attempt_of_miss (s := (Step.bracket opening closing).saving) _ _ hscan]
  · rw [follow_cons, Step.attempts_of_isEmpty (Nat.le_of_not_lt hlt), groupMissed]
    simp [hlt]

end

end Scan
end Autocomplete
