import Autocomplete.Proofs.Scan.Attempt
import Autocomplete.Scan.Rule

/-!
# A search as a looping step

A search starts its steps over all along the window, and a looping step does the same with the steps
from it on. Both come down to one sweep of the attempts of the first step, whatever its settings.
-/

namespace Autocomplete
namespace Scan

theorem record_repeating (s : Step) : record s.repeating = record s := by
  obtain ⟨_, _, _, _, _⟩ := s
  rfl

theorem record_rescanning (s : Step) (steps : List Step) (matched : Array Char) :
    record (s.rescanning steps) matched = .inner (searchAll steps matched) :=
  record_of_transform_eq_some rfl matched

theorem follow_repeating (s : Step) (rest : List Step) (text : Array Char) (before : List Capture)
    (w : Window) :
    follow (s.repeating :: rest) text before w =
      sweep (s.attempt (record s) (follow rest text) text before w.stop) w.start w.stop := by
  rw [follow_cons, Step.attempts_of_looping rfl, record_repeating]
  rfl

theorem search_cons (s : Step) (rest : List Step) (text : Array Char) (w : Window) :
    search (s :: rest) text w =
      (sweep (s.attempt (record s) (follow rest text) text [] w.stop) w.start w.stop).1 := by
  unfold search
  simp only [follow_cons]
  cases hloop : s.looping with
  | true =>
    -- The first visit sweeps the window to its end, so the search makes no second one.
    simp only [Step.attempts_of_looping hloop]
    rw [sweep_sweep]
  | false =>
    congr 1
    apply sweep_congr
    intro pos _ hlt
    exact Step.attempts_of_not_looping hloop hlt

theorem search_repeating (s : Step) (rest : List Step) (text : Array Char) (w : Window) :
    search (s.repeating :: rest) text w = search (s :: rest) text w := by
  rw [search_cons, search_cons, record_repeating]
  rfl

theorem stepsFault?_repeating (s : Step) (rest : List Step) :
    stepsFault? (s.repeating :: rest) = stepsFault? (s :: rest) := by
  obtain ⟨_, _, _, _, _⟩ := s
  rfl

theorem Rule.ofSteps_of_fault {steps : List Step} {fault : Fault}
    (h : ruleFault? steps = some fault) : Rule.ofSteps steps = .error fault := by
  unfold Rule.ofSteps
  split
  · rename_i hnone
    exact absurd (hnone.symm.trans h) (Option.some_ne_none fault).symm
  · rename_i fault' hsome
    rw [Option.some.inj (hsome.symm.trans h)]

theorem Rule.ofSteps_bind_congr {α : Type} {steps steps' : List Step}
    {use : Rule → Except Fault α} (hfault : ruleFault? steps' = ruleFault? steps)
    (h : ∀ r r' : Rule, r.steps = steps → r'.steps = steps' → use r' = use r) :
    (Rule.ofSteps steps').bind use = (Rule.ofSteps steps).bind use := by
  cases hsteps : ruleFault? steps with
  | none =>
    have hsteps' : ruleFault? steps' = none := hfault.trans hsteps
    rw [Rule.ofSteps_steps ⟨steps', hsteps'⟩, Rule.ofSteps_steps ⟨steps, hsteps⟩]
    exact h ⟨steps, hsteps⟩ ⟨steps', hsteps'⟩ rfl rfl
  | some fault =>
    rw [Rule.ofSteps_of_fault hsteps, Rule.ofSteps_of_fault (hfault.trans hsteps)]

/-- A first step that loops finds what a search for the steps finds, after the captures made before.
So it makes no difference to a search, to a transform or to a rule whether the first step loops. -/
theorem looping_at_the_front_is_redundant (s : Step) (rest : List Step) :
    (∀ (text : Array Char) (w : Window),
      search (s.repeating :: rest) text w = search (s :: rest) text w) ∧
    (∀ (text : Array Char) (before : List Capture) (w : Window),
      (follow (s.repeating :: rest) text before w).1 =
        (search (s :: rest) text w).map (before ++ ·)) ∧
    (∀ (t : Step) (matched : Array Char),
      record (t.rescanning (s.repeating :: rest)) matched =
        record (t.rescanning (s :: rest)) matched) ∧
    (∀ text : String,
      ((Rule.ofSteps (s.repeating :: rest)).bind fun r => .ok (r.findAll text)) =
        ((Rule.ofSteps (s :: rest)).bind fun r => .ok (r.findAll text))) ∧
    (∀ (text : String) (w : Window),
      ((Rule.ofSteps (s.repeating :: rest)).bind fun r => r.findIn text w) =
        ((Rule.ofSteps (s :: rest)).bind fun r => r.findIn text w)) := by
  have hsearch : ∀ (text : Array Char) (w : Window),
      search (s.repeating :: rest) text w = search (s :: rest) text w :=
    search_repeating s rest
  have hfault : ruleFault? (s.repeating :: rest) = ruleFault? (s :: rest) :=
    stepsFault?_repeating s rest
  refine ⟨hsearch, ?_, ?_, ?_, ?_⟩
  · intro text before w
    rw [follow_before, follow_repeating, search_cons]
  · intro t matched
    rw [record_rescanning, record_rescanning, searchAll, searchAll, hsearch]
  · intro text
    apply Rule.ofSteps_bind_congr hfault
    intro r r' hr hr'
    rw [Rule.findAll, Rule.findAll, hr, hr', searchAll, searchAll, hsearch]
  · intro text w
    apply Rule.ofSteps_bind_congr hfault
    intro r r' hr hr'
    rw [Rule.findIn, Rule.findIn, hr, hr', hsearch]

end Scan
end Autocomplete
