/-!
# Sweeping a window

A sweep visits positions from left to right. Each visit reports what it found and how far it got;
the next visit takes place there, and at least one character further on than the last.
-/

namespace Autocomplete
namespace Scan

variable {α : Type}

/-- Visits those of the `count` positions from `pos` on that lie at or after the cursor, which each
visit moves. Yields all finds in order, with the last cursor. -/
def sweepFrom (visit : Nat → List α × Nat) : (count pos cursor : Nat) → List α × Nat
  | 0, _, cursor => ([], cursor)
  | count + 1, pos, cursor =>
    if pos < cursor then sweepFrom visit count (pos + 1) cursor
    else
      let (found, reached) := visit pos
      let (later, last) := sweepFrom visit count (pos + 1) (max reached (pos + 1))
      (found ++ later, last)

def sweep (visit : Nat → List α × Nat) (start stop : Nat) : List α × Nat :=
  sweepFrom visit (stop - start) start start

theorem sweepFrom_skip (visit : Nat → List α × Nat) {count pos cursor : Nat}
    (h : pos ≤ cursor) :
    sweepFrom visit count pos cursor = sweep visit cursor (pos + count) := by
  induction count generalizing pos with
  | zero => simp [sweepFrom, sweep, Nat.sub_eq_zero_of_le h]
  | succ count ih =>
    by_cases hlt : pos < cursor
    · rw [sweepFrom, if_pos hlt, ih (by omega)]
      congr 1
      omega
    · obtain rfl : pos = cursor := by omega
      simp [sweep]

theorem sweep_of_le (visit : Nat → List α × Nat) {start stop : Nat} (h : stop ≤ start) :
    sweep visit start stop = ([], start) := by
  simp [sweep, Nat.sub_eq_zero_of_le h, sweepFrom]

theorem sweep_of_lt (visit : Nat → List α × Nat) {start stop : Nat} (h : start < stop) :
    sweep visit start stop =
      ((visit start).1 ++ (sweep visit (max (visit start).2 (start + 1)) stop).1,
        (sweep visit (max (visit start).2 (start + 1)) stop).2) := by
  obtain ⟨count, hcount⟩ : ∃ count, stop - start = count + 1 := ⟨stop - start - 1, by omega⟩
  have hstop : start + 1 + count = stop := by omega
  rw [sweep, hcount, sweepFrom, if_neg (Nat.lt_irrefl _)]
  simp only [sweepFrom_skip visit (Nat.le_max_right (visit start).2 (start + 1)), hstop]

/-- A sweep moves on to the end of its window. -/
theorem le_sweep_snd (visit : Nat → List α × Nat) (start stop : Nat) :
    max start stop ≤ (sweep visit start stop).2 := by
  induction hn : stop - start using Nat.strongRecOn generalizing start with
  | ind n ih =>
    by_cases h : start < stop
    · rw [sweep_of_lt visit h]
      have := ih (stop - max (visit start).2 (start + 1)) (by omega) _ rfl
      simp only
      omega
    · rw [sweep_of_le visit (by omega)]
      simp only
      omega

end Scan
end Autocomplete
