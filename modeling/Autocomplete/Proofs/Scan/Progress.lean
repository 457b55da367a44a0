import Autocomplete.Proofs.Scan.Bounds
import Autocomplete.Proofs.Scan.Looping
import Mathlib.Algebra.Group.Nat.Defs

/-!
# Searches come to an end

A search is a loop around a step that may loop itself, around further such steps, and every step
may start a search of its own in the text that it captures. The relations below run these loops as
they are, for as long as there are characters in the window, with no bound on the rounds. A
derivation is a run that comes to an end; every search has one, and its result is the only one. As
each round leaves a character of the window behind, even after a hit of no characters or an anchor
far back, the sizes of the windows bound the rounds and with them the matches.
-/

namespace Autocomplete
namespace Scan

/-! ### Runs -/

mutual

/-- Following the steps in a window ends with these matches, at this position. A step that loops is
followed again from where its trial got to, one character further on at the least. -/
inductive Follows :
    List Step → Array Char → List Capture → Window → List Match × Nat → Prop
  | nil {text before w} : Follows [] text before w ([before], w.start)
  | done {s rest text before w} (used : w.stop ≤ w.start) :
      Follows (s :: rest) text before w ([], w.start)
  | once {s rest text before w r} (left : w.start < w.stop) (single : s.looping = false)
      (tried : Tries s rest text before w.stop w.start r) : Follows (s :: rest) text before w r
  | again {s rest text before w r later} (left : w.start < w.stop) (loops : s.looping = true)
      (tried : Tries s rest text before w.stop w.start r)
      (followed : Follows (s :: rest) text before ⟨max r.2 (w.start + 1), w.stop⟩ later) :
      Follows (s :: rest) text before w (r.1 ++ later.1, later.2)

/-- Trying a step at a position, and following the remaining ones if it succeeds there, ends with
these matches, at this position. -/
inductive Tries :
    Step → List Step → Array Char → List Capture → (stop pos : Nat) → List Match × Nat → Prop
  | miss {s rest text before stop pos resume}
      (scanned : s.probe.scan text ⟨pos, stop⟩ = .miss resume) :
      Tries s rest text before stop pos ([], resume)
  | anchor {s rest text before stop pos offset r}
      (scanned : s.probe.scan text ⟨pos, stop⟩ = .anchor offset)
      (followed : Follows rest text before (s.windowAt offset stop) r) :
      Tries s rest text before stop pos (r.1, max r.2 offset)
  | passed {s rest text before stop pos hit r}
      (scanned : s.probe.scan text ⟨pos, stop⟩ = .hit hit) (unsaved : s.captured = false)
      (followed : Follows rest text before (s.windowAfter hit stop) r) :
      Tries s rest text before stop pos (r.1, max r.2 hit.stop)
  | captured {s rest text before stop pos hit c r}
      (scanned : s.probe.scan text ⟨pos, stop⟩ = .hit hit) (saved : s.captured = true)
      (taken : Takes s.transform (hit.slice text) c)
      (followed : Follows rest text (before ++ [c]) (s.windowAfter hit stop) r) :
      Tries s rest text before stop pos (r.1, max r.2 hit.stop)

/-- Capturing a matched text, or rescanning it, ends with this capture. -/
inductive Takes : Option (List Step) → Array Char → Capture → Prop
  | text {matched} : Takes none matched (.text (String.ofList matched.toList))
  | inner {steps matched found} (searched : Searches steps matched ⟨0, matched.size⟩ found) :
      Takes (some steps) matched (.inner found)

inductive Searches : List Step → Array Char → Window → List Match → Prop
  | done {steps text w} (used : w.stop ≤ w.start) : Searches steps text w []
  | again {steps text w r later} (left : w.start < w.stop)
      (followed : Follows steps text [] w r)
      (searched : Searches steps text ⟨max r.2 (w.start + 1), w.stop⟩ later) :
      Searches steps text w (r.1 ++ later)

end

theorem record_eq_capture (s : Step) (matched : Array Char) :
    record s matched = capture s.transform matched := by
  obtain ⟨_, _, _, _, _⟩ := s
  rfl

theorem searches_of_follows {steps : List Step} {text : Array Char}
    (h : ∀ w, Follows steps text [] w (follow steps text [] w)) (w : Window) :
    Searches steps text w (search steps text w) := by
  apply sweep_induction (fun pos => follow steps text [] ⟨pos, w.stop⟩)
    (motive := fun pos r => Searches steps text ⟨pos, w.stop⟩ r.1)
  · intro pos hle
    exact .done hle
  · intro pos r hlt hlater
    exact .again hlt (h _) hlater

theorem follows_of_tries {s : Step} {rest : List Step} {text : Array Char} {before : List Capture}
    {attempt : Nat → List Match × Nat} {w : Window}
    (h : ∀ pos, Tries s rest text before w.stop pos (attempt pos)) :
    Follows (s :: rest) text before w (s.attempts attempt w) := by
  cases hloop : s.looping with
  | true =>
    rw [Step.attempts_of_looping hloop]
    apply sweep_induction attempt
      (motive := fun pos r => Follows (s :: rest) text before ⟨pos, w.stop⟩ r)
    · intro pos hle
      exact .done hle
    · intro pos r hlt hlater
      exact .again hlt hloop (h pos) hlater
  | false =>
    by_cases hlt : w.start < w.stop
    · rw [Step.attempts_of_not_looping hloop hlt]
      exact .once hlt hloop (h _)
    · rw [Step.attempts_of_isEmpty (Nat.le_of_not_lt hlt)]
      exact .done (Nat.le_of_not_lt hlt)

theorem tries_of_follows {s : Step} {rest : List Step} {text : Array Char} {before : List Capture}
    {stop : Nat} {record : Array Char → Capture}
    {follow : List Capture → Window → List Match × Nat}
    (hrecord : ∀ matched, Takes s.transform matched (record matched))
    (hfollow : ∀ before w, Follows rest text before w (follow before w)) (pos : Nat) :
    Tries s rest text before stop pos (s.attempt record follow text before stop pos) := by
  cases hscan : s.probe.scan text ⟨pos, stop⟩ with
  | hit hit =>
    rw [Step.attempt_of_hit _ _ hscan, Step.kept]
    cases hsaved : s.captured with
    | true => exact .captured hscan hsaved (hrecord _) (hfollow _ _)
    | false => simpa using Tries.passed hscan hsaved (hfollow before _)
  | anchor offset =>
    rw [Step.attempt_of_anchor _ _ hscan]
    exact .anchor hscan (hfollow _ _)
  | miss resume =>
    rw [Step.attempt_of_miss _ _ hscan]
    exact .miss hscan

mutual

theorem follows_follow : (steps : List Step) → ∀ (text : Array Char) (before : List Capture)
    (w : Window), Follows steps text before w (follow steps text before w)
  | [], _, _, _ => .nil
  | s :: rest, text, _, _ =>
    follows_of_tries (tries_of_follows (takes_record s) (follows_follow rest text))
termination_by structural steps => steps

theorem takes_record : (s : Step) → ∀ matched : Array Char,
    Takes s.transform matched (record s matched)
  | ⟨_, _, _, _, transform⟩, matched => takes_capture transform matched
termination_by structural s => s

theorem takes_capture : (transform : Option (List Step)) → ∀ matched : Array Char,
    Takes transform matched (capture transform matched)
  | none, _ => .text
  | some steps, matched => .inner (searches_of_follows (follows_follow steps matched []) _)
termination_by structural transform => transform

end

mutual

theorem Follows.eq_follow {steps : List Step} {text : Array Char} {before : List Capture}
    {w : Window} {r : List Match × Nat} : Follows steps text before w r →
      r = follow steps text before w
  | .nil => rfl
  | .done used => by rw [follow_cons, Step.attempts_of_isEmpty used]
  | .once left single tried => by
    rw [follow_cons, Step.attempts_of_not_looping single left, tried.eq_attempt]
  | .again left loops tried followed => by
    rw [follow_cons, Step.attempts_of_looping loops, sweep_of_lt _ left, ← tried.eq_attempt,
      followed.eq_follow, follow_cons, Step.attempts_of_looping loops]
termination_by structural h => h

theorem Tries.eq_attempt {s : Step} {rest : List Step} {text : Array Char} {before : List Capture}
    {stop pos : Nat} {r : List Match × Nat} : Tries s rest text before stop pos r →
      r = s.attempt (record s) (follow rest text) text before stop pos
  | .miss scanned => by rw [Step.attempt_of_miss _ _ scanned]
  | .anchor scanned followed => by rw [Step.attempt_of_anchor _ _ scanned, followed.eq_follow]
  | .passed scanned unsaved followed => by
    rw [Step.attempt_of_hit _ _ scanned, followed.eq_follow]
    simp [Step.kept, unsaved]
  | .captured scanned saved taken followed => by
    rw [Step.attempt_of_hit _ _ scanned, followed.eq_follow, taken.eq_capture]
    simp [Step.kept, saved, record_eq_capture]
termination_by structural h => h

theorem Takes.eq_capture {transform : Option (List Step)} {matched : Array Char} {c : Capture} :
    Takes transform matched c → c = capture transform matched
  | .text => rfl
  | .inner searched => by rw [searched.eq_search]; rfl
termination_by structural h => h

theorem Searches.eq_search {steps : List Step} {text : Array Char} {w : Window}
    {found : List Match} : Searches steps text w found → found = search steps text w
  | .done used => by rw [search, sweep_of_le _ used]
  | .again left followed searched => by
    rw [search, sweep_of_lt _ left, searched.eq_search, followed.eq_follow, search]
termination_by structural h => h

end

/-- Every search comes to an end, with its matches and no others. -/
theorem searches_iff {steps : List Step} {text : Array Char} {w : Window} {found : List Match} :
    Searches steps text w found ↔ found = search steps text w := by
  constructor
  · exact Searches.eq_search
  · rintro rfl
    exact searches_of_follows (follows_follow steps text []) w

/-! ### Numbers of matches -/

/-- The number of steps after the first one that loop. -/
def laterLoops (steps : List Step) : Nat := steps.tail.countP (·.looping)

theorem length_attempts_le {s : Step} {attempt : Nat → List Match × Nat} {w : Window} {n k : Nat}
    (hstop : w.stop ≤ n) (h : ∀ pos, pos < w.stop → (attempt pos).1.length ≤ n ^ k) :
    (s.attempts attempt w).1.length ≤ n ^ (k + if s.looping then 1 else 0) := by
  cases hloop : s.looping with
  | true =>
    rw [Step.attempts_of_looping hloop]
    calc (sweep attempt w.start w.stop).1.length
        ≤ (w.stop - w.start) * n ^ k := length_sweep_le fun pos _ => h pos
      _ ≤ n * n ^ k := Nat.mul_le_mul_right _ (by omega)
      _ = n ^ (k + 1) := (Nat.pow_succ' ..).symm
  | false =>
    by_cases hlt : w.start < w.stop
    · rw [Step.attempts_of_not_looping hloop hlt]
      exact h _ hlt
    · simp [Step.attempts_of_isEmpty (Nat.le_of_not_lt hlt)]

/-- An attempt has no more matches than the remaining steps have in any window up to its end. -/
theorem length_attempt_le {s : Step} {record : Array Char → Capture}
    {follow : List Capture → Window → List Match × Nat} {text : Array Char}
    {before : List Capture} {stop pos bound : Nat} (hlt : pos < stop)
    (h : ∀ before w, w.stop ≤ stop → (follow before w).1.length ≤ bound) :
    (s.attempt record follow text before stop pos).1.length ≤ bound := by
  have hbounds := s.probe.scan_inBounds text (w := ⟨pos, stop⟩) (Nat.le_of_lt hlt)
  cases hscan : s.probe.scan text ⟨pos, stop⟩ with
  | hit hit =>
    rw [hscan] at hbounds
    rw [Step.attempt_of_hit _ _ hscan]
    exact h _ _ (s.windowAfter_bounds hbounds).2.2
  | anchor offset =>
    rw [hscan] at hbounds
    rw [Step.attempt_of_anchor _ _ hscan]
    exact h _ _ (s.windowAt_bounds (Nat.le_trans hbounds (Nat.le_of_lt hlt))).2
  | miss resume => simp [Step.attempt_of_miss _ _ hscan]

theorem length_follow_le (steps : List Step) (text : Array Char) (before : List Capture)
    {w : Window} {n : Nat} (hstop : w.stop ≤ n) :
    (follow steps text before w).1.length ≤ n ^ steps.countP (·.looping) := by
  induction steps generalizing before w with
  | nil => simp [follow_nil]
  | cons s rest ih =>
    rw [follow_cons, List.countP_cons]
    apply length_attempts_le hstop
    intro pos hlt
    exact length_attempt_le hlt fun before' w' hle => ih before' (Nat.le_trans hle hstop)

theorem length_search_le (steps : List Step) (text : Array Char) (w : Window) :
    (search steps text w).length ≤ (w.stop - w.start) * w.stop ^ laterLoops steps := by
  cases steps with
  | nil => exact length_sweep_le fun pos _ _ => by simp [follow_nil, laterLoops]
  | cons s rest =>
    rw [search_cons]
    apply length_sweep_le
    intro pos _ hlt
    exact length_attempt_le hlt fun before' w' hle => length_follow_le rest text before' hle

/-- Whatever the steps are, a search comes to an end. It has at most one match for each position of
its window and each choice of positions before the end of the window for the later steps that loop;
without such steps it has no more matches than the window has characters. -/
theorem searches_end_with_bounded_output (steps : List Step) (text : Array Char) (w : Window) :
    (∀ found, Searches steps text w found ↔ found = search steps text w) ∧
    (search steps text w).length ≤ (w.stop - w.start) * w.stop ^ laterLoops steps ∧
    ((∀ s ∈ steps.tail, s.looping = false) →
      (search steps text w).length ≤ w.stop - w.start) := by
  refine ⟨fun found => searches_iff, length_search_le steps text w, ?_⟩
  intro honce
  have hnone : laterLoops steps = 0 := by simpa [laterLoops] using honce
  simpa [hnone] using length_search_le steps text w

/-- Spaces, of which there may be none, and then the start of the line. -/
def blankSteps : List Step := [Step.spaces.repeating.saving, Step.lineStart]

theorem searches_end_with_bounded_output_of_nothing :
    (∀ s ∈ blankSteps.tail, s.looping = false) ∧
      Searches blankSteps "a b".toList.toArray ⟨0, 3⟩ [[.text ""], [.text " "], [.text ""]] ∧
      (search blankSteps "a b".toList.toArray ⟨0, 3⟩).length ≤ 3 := by
  have honce : ∀ s ∈ blankSteps.tail, s.looping = false := by decide
  obtain ⟨hends, -, hbound⟩ :=
    searches_end_with_bounded_output blankSteps "a b".toList.toArray ⟨0, 3⟩
  exact ⟨honce, (hends _).mpr rfl, hbound honce⟩

end Scan
end Autocomplete
