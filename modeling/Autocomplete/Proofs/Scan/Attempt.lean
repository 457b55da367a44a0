import Autocomplete.Proofs.Scan.Sweep
import Autocomplete.Scan.Search

/-!
# One step of a search

What a step does at one position depends on the outcome of its probe only, and a step that tries
all positions of a window does nothing that one of its attempts does not do. The statements here
are all that later proofs use of the search; the remaining steps enter as an arbitrary function.
-/

namespace Autocomplete
namespace Scan

def Window.moved (w : Window) (d : Nat) : Window := ⟨w.start + d, w.stop + d⟩

@[simp] theorem Window.moved_start (w : Window) (d : Nat) : (w.moved d).start = w.start + d := rfl

@[simp] theorem Window.moved_stop (w : Window) (d : Nat) : (w.moved d).stop = w.stop + d := rfl

@[simp] theorem Window.moved_zero (w : Window) : w.moved 0 = w := rfl

namespace Step

variable {s : Step} {text : Array Char} {before : List Capture} {stop pos : Nat}

/-- The captures that a step adds at a hit. -/
def kept (s : Step) (record : Array Char → Capture) (text : Array Char) (hit : Window) :
    List Capture :=
  if s.captured then [record (hit.slice text)] else []

section

variable (record : Array Char → Capture) (follow : List Capture → Window → List Match × Nat)

theorem attempt_of_hit {hit : Window} (h : s.probe.scan text ⟨pos, stop⟩ = .hit hit) :
    s.attempt record follow text before stop pos =
      ((follow (before ++ s.kept record text hit) (s.windowAfter hit stop)).1,
        max (follow (before ++ s.kept record text hit) (s.windowAfter hit stop)).2 hit.stop) := by
  unfold attempt kept
  rw [h]
  cases s.captured <;> simp

theorem attempt_of_anchor {offset : Nat} (h : s.probe.scan text ⟨pos, stop⟩ = .anchor offset) :
    s.attempt record follow text before stop pos =
      ((follow before (s.windowAt offset stop)).1,
        max (follow before (s.windowAt offset stop)).2 offset) := by
  unfold attempt
  rw [h]

theorem attempt_of_miss {resume : Nat} (h : s.probe.scan text ⟨pos, stop⟩ = .miss resume) :
    s.attempt record follow text before stop pos = ([], resume) := by
  unfold attempt
  rw [h]

end

section

variable {attempt : Nat → List Match × Nat} {w : Window}

theorem attempts_of_looping (h : s.looping = true) :
    s.attempts attempt w = sweep attempt w.start w.stop := by
  rw [attempts, if_pos h]

theorem attempts_of_not_looping (h : s.looping = false) (hlt : w.start < w.stop) :
    s.attempts attempt w = attempt w.start := by
  rw [attempts, h, if_neg Bool.false_ne_true, if_pos hlt]

theorem attempts_of_isEmpty (h : w.stop ≤ w.start) : s.attempts attempt w = ([], w.start) := by
  cases hloop : s.looping with
  | true => rw [attempts_of_looping hloop, sweep_of_le attempt h]
  | false => rw [attempts, hloop, if_neg Bool.false_ne_true, if_neg (Nat.not_lt.mpr h)]

/-- Every match of a step is a match of one of its attempts, which is made at the start of the
window unless the step loops. -/
theorem exists_attempt_of_mem {m : Match} (h : m ∈ (s.attempts attempt w).1) :
    ∃ pos, w.start ≤ pos ∧ pos < w.stop ∧ (s.looping = false → pos = w.start) ∧
      m ∈ (attempt pos).1 := by
  cases hloop : s.looping with
  | true =>
    rw [attempts_of_looping hloop] at h
    obtain ⟨pos, hle, hlt, hmem⟩ := exists_visit_of_mem_sweep h
    exact ⟨pos, hle, hlt, by simp, hmem⟩
  | false =>
    by_cases hlt : w.start < w.stop
    · rw [attempts_of_not_looping hloop hlt] at h
      exact ⟨w.start, Nat.le_refl _, hlt, fun _ => rfl, h⟩
    · rw [attempts_of_isEmpty (Nat.le_of_not_lt hlt)] at h
      simp at h

/-- A step whose attempts stay in the window goes on from a position in the window. -/
theorem attempts_snd_le (hle : w.start ≤ w.stop)
    (h : ∀ pos, w.start ≤ pos → pos < w.stop → (attempt pos).2 ≤ w.stop) :
    (s.attempts attempt w).2 ≤ w.stop := by
  cases hloop : s.looping with
  | true =>
    rw [attempts_of_looping hloop]
    exact sweep_snd_le hle h
  | false =>
    by_cases hlt : w.start < w.stop
    · rw [attempts_of_not_looping hloop hlt]
      exact h w.start (Nat.le_refl _) hlt
    · rw [attempts_of_isEmpty (Nat.le_of_not_lt hlt)]
      exact hle

theorem attempts_map {attempt' : Nat → List Match × Nat} (f : Match → Match) (d : Nat)
    (h : ∀ pos, w.start ≤ pos → pos < w.stop →
      attempt' (pos + d) = ((attempt pos).1.map f, (attempt pos).2 + d)) :
    s.attempts attempt' (w.moved d) =
      ((s.attempts attempt w).1.map f, (s.attempts attempt w).2 + d) := by
  cases hloop : s.looping with
  | true =>
    rw [attempts_of_looping hloop, attempts_of_looping hloop]
    exact sweep_map f d h
  | false =>
    by_cases hlt : w.start < w.stop
    · rw [attempts_of_not_looping hloop hlt,
        attempts_of_not_looping hloop (w := w.moved d) (Nat.add_lt_add_right hlt d)]
      exact h w.start (Nat.le_refl _) hlt
    · have hle : w.stop ≤ w.start := Nat.le_of_not_lt hlt
      rw [attempts_of_isEmpty hle,
        attempts_of_isEmpty (w := w.moved d) (Nat.add_le_add_right hle d)]
      rfl

theorem attempts_congr {attempt' : Nat → List Match × Nat} (s : Step)
    (h : ∀ pos, w.start ≤ pos → pos < w.stop → attempt' pos = attempt pos) :
    s.attempts attempt' w = s.attempts attempt w := by
  have hvisit : ∀ pos, w.start ≤ pos → pos < w.stop →
      attempt' (pos + 0) = ((attempt pos).1.map id, (attempt pos).2 + 0) := by
    intro pos hle hlt
    rw [List.map_id]
    exact h pos hle hlt
  have hmap := s.attempts_map id 0 hvisit
  rwa [List.map_id, Nat.add_zero, Window.moved_zero] at hmap

end

end Step

/-- The captures made earlier stand in front of every match, and have no other effect. -/
theorem follow_before (steps : List Step) (text : Array Char) (before : List Capture) (w : Window) :
    follow steps text before w =
      ((follow steps text [] w).1.map (before ++ ·), (follow steps text [] w).2) := by
  induction steps generalizing before w with
  | nil => simp [follow_nil]
  | cons s rest ih =>
    rw [follow_cons, follow_cons]
    refine Step.attempts_map (s := s) (w := w) (before ++ ·) 0 fun pos _ _ => ?_
    cases hscan : s.probe.scan text ⟨pos, w.stop⟩ with
    | hit hit =>
      rw [Nat.add_zero, Step.attempt_of_hit _ _ hscan, Step.attempt_of_hit _ _ hscan,
        ih (before ++ _), ih ([] ++ _)]
      simp [Function.comp_def]
    | anchor offset =>
      rw [Nat.add_zero, Step.attempt_of_anchor _ _ hscan, Step.attempt_of_anchor _ _ hscan,
        ih before]
      simp
    | miss resume =>
      rw [Nat.add_zero, Step.attempt_of_miss _ _ hscan, Step.attempt_of_miss _ _ hscan]
      simp

end Scan
end Autocomplete
