import Autocomplete.Scan.Step
import Autocomplete.Scan.Sweep

/-!
# Searching with a list of steps

The first step is tried in a window; wherever it succeeds, the remaining steps are followed inside
or after its hit. A looping step sweeps its window, any other step is tried once, at the start. What
is found is returned together with the position from which the caller goes on.
-/

namespace Autocomplete
namespace Scan

namespace Step

/-- The window in which the steps after a hit scan. -/
def windowAfter (s : Step) (hit : Window) (stop : Nat) : Window :=
  if s.nested then hit else ⟨hit.stop, stop⟩

def windowAt (s : Step) (offset stop : Nat) : Window :=
  ⟨offset, if s.nested then offset else stop⟩

/-- One trial of a step at `pos` in a window that ends at `stop`: `follow` handles the remaining
steps, and `record` makes a capture of a matched text. -/
def attempt (s : Step) (record : Array Char → Capture)
    (follow : List Capture → Window → List Match × Nat) (text : Array Char)
    (before : List Capture) (stop pos : Nat) : List Match × Nat :=
  match s.probe.scan text ⟨pos, stop⟩ with
  | .miss resume => ([], resume)
  | .hit w =>
    let captures := if s.captured then before ++ [record (w.slice text)] else before
    let (found, reached) := follow captures (s.windowAfter w stop)
    (found, max reached w.stop)
  | .anchor offset =>
    let (found, reached) := follow before (s.windowAt offset stop)
    (found, max reached offset)

/-- Tries a step once, or all over the window when it loops. -/
def attempts (s : Step) (attempt : Nat → List Match × Nat) (w : Window) : List Match × Nat :=
  if s.looping then sweep attempt w.start w.stop
  else if w.start < w.stop then attempt w.start
  else ([], w.start)

end Step

mutual

/-- Follows `steps` in a window, in which earlier steps have made the captures `before`. Yields the
complete matches and the position from which the caller goes on. -/
def follow : (steps : List Step) → (text : Array Char) → (before : List Capture) → Window →
    List Match × Nat
  | [], _, before, w => ([before], w.start)
  | step :: rest, text, before, w =>
    step.attempts (step.attempt (record step) (follow rest text) text before w.stop) w
termination_by structural steps => steps

def record : Step → Array Char → Capture
  | ⟨_, _, _, _, transform⟩, matched => capture transform matched
termination_by structural s => s

/-- A matched text as it is, or rescanned from its start to its end. -/
def capture : Option (List Step) → Array Char → Capture
  | none, matched => .text (String.ofList matched.toList)
  | some steps, matched =>
    .inner (sweep (fun pos => follow steps matched [] ⟨pos, matched.size⟩) 0 matched.size).1
termination_by structural steps => steps

end

def search (steps : List Step) (text : Array Char) (w : Window) : List Match :=
  (sweep (fun pos => follow steps text [] ⟨pos, w.stop⟩) w.start w.stop).1

/-- All matches of `steps` in a whole text. -/
def searchAll (steps : List Step) (text : Array Char) : List Match :=
  search steps text ⟨0, text.size⟩

theorem follow_nil (text : Array Char) (before : List Capture) (w : Window) :
    follow [] text before w = ([before], w.start) := rfl

theorem follow_cons (step : Step) (rest : List Step) (text : Array Char) (before : List Capture)
    (w : Window) :
    follow (step :: rest) text before w =
      step.attempts (step.attempt (record step) (follow rest text) text before w.stop) w := rfl

theorem record_of_transform_eq_none {step : Step} (h : step.transform = none)
    (matched : Array Char) : record step matched = .text (String.ofList matched.toList) := by
  obtain ⟨_, _, _, _, _⟩ := step
  subst h
  rfl

theorem record_of_transform_eq_some {step : Step} {steps : List Step}
    (h : step.transform = some steps) (matched : Array Char) :
    record step matched = .inner (searchAll steps matched) := by
  obtain ⟨_, _, _, _, _⟩ := step
  subst h
  rfl

end Scan
end Autocomplete
