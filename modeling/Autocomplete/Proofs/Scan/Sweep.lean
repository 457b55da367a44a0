import Autocomplete.Scan.Sweep

/-!
# What a sweep does with its visits

A sweep is a loop of its own, so everything that is said about a sweep is said once of a single
visit and carried over by one induction. The statements range over the visits inside the window
only, since no other visit takes place.
-/

namespace Autocomplete
namespace Scan

variable {α β : Type} {start stop : Nat}

/-- What holds of a window that is used up, and is kept by one visit before a sweep, holds of every
sweep. -/
theorem sweep_induction {motive : Nat → List α × Nat → Prop} (visit : Nat → List α × Nat)
    (done : ∀ pos, stop ≤ pos → motive pos ([], pos))
    (visited : ∀ pos r, pos < stop → motive (max (visit pos).2 (pos + 1)) r →
      motive pos ((visit pos).1 ++ r.1, r.2)) (start : Nat) :
    motive start (sweep visit start stop) := by
  induction hn : stop - start using Nat.strongRecOn generalizing start with
  | ind n ih =>
    by_cases h : start < stop
    · rw [sweep_of_lt visit h]
      have hlater := ih (stop - max (visit start).2 (start + 1)) (by omega) _ rfl
      exact visited start _ h hlater
    · have hle : stop ≤ start := Nat.le_of_not_lt h
      rw [sweep_of_le visit hle]
      exact done start hle

theorem exists_visit_of_mem_sweep {visit : Nat → List α × Nat} {a : α}
    (h : a ∈ (sweep visit start stop).1) :
    ∃ pos, start ≤ pos ∧ pos < stop ∧ a ∈ (visit pos).1 := by
  revert h
  apply sweep_induction visit (motive := fun start r =>
    a ∈ r.1 → ∃ pos, start ≤ pos ∧ pos < stop ∧ a ∈ (visit pos).1)
  · intro pos _ h
    simp at h
  · intro pos r hlt ih h
    rcases List.mem_append.mp h with h | h
    · exact ⟨pos, Nat.le_refl _, hlt, h⟩
    · obtain ⟨later, hle, hlater, hmem⟩ := ih h
      exact ⟨later, by omega, hlater, hmem⟩

/-- A sweep whose visits stay in the window ends in the window. -/
theorem sweep_snd_le {visit : Nat → List α × Nat} (hle : start ≤ stop)
    (h : ∀ pos, start ≤ pos → pos < stop → (visit pos).2 ≤ stop) :
    (sweep visit start stop).2 ≤ stop := by
  revert hle h
  apply sweep_induction visit (motive := fun start r => start ≤ stop →
    (∀ pos, start ≤ pos → pos < stop → (visit pos).2 ≤ stop) → r.2 ≤ stop)
  · intro pos _ hle _
    exact hle
  · intro pos r hlt ih _ h
    have hreached := h pos (Nat.le_refl _) hlt
    exact ih (by omega) (fun later hlater => h later (by omega))

theorem length_sweep_le {visit : Nat → List α × Nat} {bound : Nat}
    (h : ∀ pos, start ≤ pos → pos < stop → (visit pos).1.length ≤ bound) :
    (sweep visit start stop).1.length ≤ (stop - start) * bound := by
  revert h
  apply sweep_induction visit (motive := fun start r =>
    (∀ pos, start ≤ pos → pos < stop → (visit pos).1.length ≤ bound) →
    r.1.length ≤ (stop - start) * bound)
  · simp
  · intro pos r hlt ih h
    have hfound := h pos (Nat.le_refl _) hlt
    have hlater := ih fun later hle => h later (by omega)
    -- The later visits have one position less at the least.
    have hrounds : (stop - max (visit pos).2 (pos + 1)) * bound ≤ (stop - (pos + 1)) * bound :=
      Nat.mul_le_mul_right bound (by omega)
    have hsplit : (stop - pos) * bound = (stop - (pos + 1)) * bound + bound := by
      rw [← Nat.succ_mul]
      congr 1
      omega
    simp only [List.length_append]
    omega

/-- Two sweeps whose visits agree up to a shift of the positions, each find being replaced by any
number of others, agree in the same way. -/
theorem sweep_flatMap {visit : Nat → List α × Nat} {visit' : Nat → List β × Nat} (f : α → List β)
    (d : Nat) (h : ∀ pos, start ≤ pos → pos < stop →
      visit' (pos + d) = ((visit pos).1.flatMap f, (visit pos).2 + d)) :
    sweep visit' (start + d) (stop + d) =
      ((sweep visit start stop).1.flatMap f, (sweep visit start stop).2 + d) := by
  revert h
  apply sweep_induction visit (motive := fun start r =>
    (∀ pos, start ≤ pos → pos < stop →
      visit' (pos + d) = ((visit pos).1.flatMap f, (visit pos).2 + d)) →
    sweep visit' (start + d) (stop + d) = (r.1.flatMap f, r.2 + d))
  · intro pos hle _
    rw [sweep_of_le visit' (by omega), List.flatMap_nil]
  · intro pos r hlt ih h
    have hlater := ih (fun later hle => h later (by omega))
    have hcursor : max ((visit pos).2 + d) (pos + d + 1) = max (visit pos).2 (pos + 1) + d := by
      omega
    rw [sweep_of_lt visit' (by omega), h pos (Nat.le_refl _) hlt, hcursor, hlater,
      List.flatMap_append]

theorem sweep_map {visit : Nat → List α × Nat} {visit' : Nat → List β × Nat} (f : α → β) (d : Nat)
    (h : ∀ pos, start ≤ pos → pos < stop →
      visit' (pos + d) = ((visit pos).1.map f, (visit pos).2 + d)) :
    sweep visit' (start + d) (stop + d) =
      ((sweep visit start stop).1.map f, (sweep visit start stop).2 + d) := by
  simp only [List.map_eq_flatMap] at h ⊢
  exact sweep_flatMap _ d h

theorem sweep_congr {visit visit' : Nat → List α × Nat}
    (h : ∀ pos, start ≤ pos → pos < stop → visit' pos = visit pos) :
    sweep visit' start stop = sweep visit start stop := by
  have hvisit : ∀ pos, start ≤ pos → pos < stop →
      visit' (pos + 0) = ((visit pos).1.map id, (visit pos).2 + 0) := by
    intro pos hle hlt
    rw [List.map_id]
    exact h pos hle hlt
  have hmap := sweep_map id 0 hvisit
  rw [List.map_id] at hmap
  exact hmap

/-- A visit that reports a place before its own position reports as much as one that reports its
position. -/
theorem sweep_congr_of_max {visit visit' : Nat → List α × Nat}
    (h : ∀ pos, (visit' pos).1 = (visit pos).1 ∧
      max (visit' pos).2 pos = max (visit pos).2 pos) :
    sweep visit' start stop = sweep visit start stop := by
  apply sweep_induction visit (motive := fun start r => sweep visit' start stop = r)
  · intro pos hle
    exact sweep_of_le visit' hle
  · intro pos r hlt ih
    obtain ⟨hfound, hreached⟩ := h pos
    have hcursor : max (visit' pos).2 (pos + 1) = max (visit pos).2 (pos + 1) := by omega
    rw [sweep_of_lt visit' hlt, hfound, hcursor, ih]

/-- A sweep whose visits sweep all the rest of the window themselves makes one visit only. -/
theorem sweep_sweep (visit : Nat → List α × Nat) (start stop : Nat) :
    sweep (fun pos => sweep visit pos stop) start stop = sweep visit start stop := by
  by_cases h : start < stop
  · have hend : max start stop ≤ (sweep visit start stop).2 := le_sweep_snd visit start stop
    have hcursor : max (sweep visit start stop).2 (start + 1) = (sweep visit start stop).2 := by
      omega
    have hdone : stop ≤ (sweep visit start stop).2 := by omega
    rw [sweep_of_lt _ h, hcursor, sweep_of_le _ hdone, List.append_nil]
  · have hle : stop ≤ start := Nat.le_of_not_lt h
    rw [sweep_of_le _ hle, sweep_of_le _ hle]

end Scan
end Autocomplete
