/-!
# Searching offsets

The searches that probes and documents are built from: the first offset of a range with a property,
and the places where a run of offsets with a property ends and starts.
-/

namespace Autocomplete
namespace Scan

/-- The first of the `count` offsets from `start` on that satisfies `p`. -/
def firstAmong? (p : Nat → Bool) : (start count : Nat) → Option Nat
  | _, 0 => none
  | start, count + 1 => if p start then some start else firstAmong? p (start + 1) count

/-- The first offset of `[start, stop)` that satisfies `p`. -/
def firstIn? (p : Nat → Bool) (start stop : Nat) : Option Nat :=
  firstAmong? p start (stop - start)

/-- The end of the longest run of offsets from `start` on, below `stop`, that satisfy `p`. -/
def runEnd (p : Nat → Bool) (start stop : Nat) : Nat :=
  (firstIn? (fun i => !p i) start stop).getD (max start stop)

/-- The start of the longest run of offsets that satisfy `p` and end just before `stop`. -/
def runStart (p : Nat → Bool) : (stop : Nat) → Nat
  | 0 => 0
  | stop + 1 => if p stop then runStart p stop else stop + 1

theorem firstAmong?_eq_some {p : Nat → Bool} {start count i : Nat}
    (h : firstAmong? p start count = some i) :
    start ≤ i ∧ i < start + count ∧ p i = true ∧ ∀ j, start ≤ j → j < i → p j = false := by
  induction count generalizing start with
  | zero => simp [firstAmong?] at h
  | succ count ih =>
    unfold firstAmong? at h
    split at h
    · obtain rfl := Option.some.inj h
      exact ⟨Nat.le_refl _, by omega, ‹_›, fun j _ _ => by omega⟩
    · obtain ⟨h1, h2, h3, h4⟩ := ih h
      refine ⟨by omega, by omega, h3, fun j hj hji => ?_⟩
      rcases Nat.eq_or_lt_of_le hj with rfl | hlt
      · simpa using ‹¬p start = true›
      · exact h4 j hlt hji

theorem firstAmong?_eq_none {p : Nat → Bool} {start count : Nat}
    (h : firstAmong? p start count = none) :
    ∀ j, start ≤ j → j < start + count → p j = false := by
  induction count generalizing start with
  | zero => intro j _ _; omega
  | succ count ih =>
    unfold firstAmong? at h
    split at h
    · simp at h
    · intro j hj hjc
      rcases Nat.eq_or_lt_of_le hj with rfl | hlt
      · simpa using ‹¬p start = true›
      · exact ih h j hlt (by omega)

theorem firstIn?_eq_some {p : Nat → Bool} {start stop i : Nat}
    (h : firstIn? p start stop = some i) :
    start ≤ i ∧ i < stop ∧ p i = true ∧ ∀ j, start ≤ j → j < i → p j = false := by
  obtain ⟨h1, h2, h3, h4⟩ := firstAmong?_eq_some h
  exact ⟨h1, by omega, h3, h4⟩

theorem firstIn?_eq_none {p : Nat → Bool} {start stop : Nat}
    (h : firstIn? p start stop = none) : ∀ j, start ≤ j → j < stop → p j = false :=
  fun j hj hjs => firstAmong?_eq_none h j hj (by omega)

theorem firstIn?_of_le {p : Nat → Bool} {start stop : Nat} (h : stop ≤ start) :
    firstIn? p start stop = none := by
  simp [firstIn?, firstAmong?, Nat.sub_eq_zero_of_le h]

theorem firstIn?_of_lt {p : Nat → Bool} {start stop : Nat} (h : start < stop) :
    firstIn? p start stop = if p start then some start else firstIn? p (start + 1) stop := by
  have hcount : stop - start = stop - (start + 1) + 1 := by omega
  rw [firstIn?, hcount, firstAmong?, firstIn?]

theorem le_runEnd (p : Nat → Bool) (start stop : Nat) : start ≤ runEnd p start stop := by
  unfold runEnd
  cases h : firstIn? (fun i => !p i) start stop with
  | none => simp only [Option.getD_none]; omega
  | some i => exact (firstIn?_eq_some h).1

theorem runEnd_le {p : Nat → Bool} {start stop : Nat} (hle : start ≤ stop) :
    runEnd p start stop ≤ stop := by
  unfold runEnd
  cases h : firstIn? (fun i => !p i) start stop with
  | none => simp only [Option.getD_none]; omega
  | some i => exact Nat.le_of_lt (firstIn?_eq_some h).2.1

theorem of_lt_runEnd {p : Nat → Bool} {start stop i : Nat} (hi : start ≤ i)
    (hlt : i < runEnd p start stop) (hle : start ≤ stop) : p i = true := by
  unfold runEnd at hlt
  cases h : firstIn? (fun i => !p i) start stop with
  | none =>
    rw [h, Option.getD_none] at hlt
    simpa using firstIn?_eq_none h i hi (by omega)
  | some j =>
    rw [h, Option.getD_some] at hlt
    simpa using (firstIn?_eq_some h).2.2.2 i hi hlt

theorem runEnd_le_of_not {p : Nat → Bool} {start stop i : Nat} (hi : start ≤ i) (hp : p i = false)
    (hle : start ≤ stop) : runEnd p start stop ≤ i := by
  apply Nat.le_of_not_lt
  intro hlt
  exact Bool.false_ne_true (hp.symm.trans (of_lt_runEnd hi hlt hle))

theorem not_runEnd {p : Nat → Bool} {start stop : Nat} (hlt : runEnd p start stop < stop) :
    p (runEnd p start stop) = false := by
  unfold runEnd at hlt ⊢
  cases h : firstIn? (fun i => !p i) start stop with
  | none => rw [h, Option.getD_none] at hlt; omega
  | some j => simpa using (firstIn?_eq_some h).2.2.1

/-- A run is known by its offsets and by the one after it. -/
theorem runEnd_unique {p : Nat → Bool} {start stop e : Nat} (hle : start ≤ e) (hstop : e ≤ stop)
    (hall : ∀ i, start ≤ i → i < e → p i = true) (hend : e < stop → p e = false) :
    runEnd p start stop = e := by
  have hstart : start ≤ stop := Nat.le_trans hle hstop
  apply Nat.le_antisymm
  · apply Nat.le_of_not_lt
    intro hlt
    have hpe := of_lt_runEnd hle hlt hstart
    have hnot := hend (Nat.lt_of_lt_of_le hlt (runEnd_le hstart))
    exact absurd (hpe.symm.trans hnot) (by decide)
  · apply Nat.le_of_not_lt
    intro hlt
    have hnot := not_runEnd (p := p) (Nat.lt_of_lt_of_le hlt hstop)
    have hpe := hall _ (le_runEnd p start stop) hlt
    exact absurd (hpe.symm.trans hnot) (by decide)

theorem runStart_le (p : Nat → Bool) (stop : Nat) : runStart p stop ≤ stop := by
  induction stop with
  | zero => exact Nat.le_refl _
  | succ stop ih =>
    unfold runStart
    split
    · omega
    · exact Nat.le_refl _

theorem of_runStart_le {p : Nat → Bool} {stop i : Nat} (h : runStart p stop ≤ i) (hi : i < stop) :
    p i = true := by
  induction stop with
  | zero => omega
  | succ stop ih =>
    unfold runStart at h
    split at h
    · rcases Nat.lt_succ_iff_lt_or_eq.1 hi with hlt | rfl
      · exact ih h hlt
      · assumption
    · omega

/-- A run goes back as far from its end as from an offset inside it. -/
theorem runStart_of_run {p : Nat → Bool} {start stop : Nat} (hle : start ≤ stop)
    (h : ∀ i, start ≤ i → i < stop → p i = true) : runStart p stop = runStart p start := by
  induction hle with
  | refl => rfl
  | @step stop hle ih =>
    have hlast := h stop hle (Nat.lt_succ_self stop)
    rw [runStart, if_pos hlast, ih fun i hi hlt => h i hi (Nat.lt_succ_of_lt hlt)]

theorem not_before_runStart {p : Nat → Bool} {stop i : Nat} (h : runStart p stop = i + 1) :
    p i = false := by
  induction stop with
  | zero => simp [runStart] at h
  | succ stop ih =>
    unfold runStart at h
    split at h
    · exact ih h
    · obtain rfl : stop = i := by omega
      simpa using ‹¬p stop = true›

end Scan
end Autocomplete
