import Autocomplete.Scan.Fault
import Autocomplete.Scan.Search

/-!
# Rules

A rule is a list of steps without fault. It is searched for in a whole text or in one window of it.
-/

namespace Autocomplete
namespace Scan

/-- A list of steps that can be searched for. -/
structure Rule where
  steps : List Step
  faultless : ruleFault? steps = none

namespace Rule

def ofSteps (steps : List Step) : Except Fault Rule :=
  match h : ruleFault? steps with
  | none => .ok ⟨steps, h⟩
  | some fault => .error fault

def findAll (r : Rule) (text : String) : List Match := searchAll r.steps text.toList.toArray

/-- Every match in one window of `text`. A step that moves back may still look before the window. -/
def findIn (r : Rule) (text : String) (w : Window) : Except Fault (List Match) :=
  let chars := text.toList.toArray
  match w.fault? chars.size with
  | none => .ok (search r.steps chars w)
  | some fault => .error fault

theorem ofSteps_steps (r : Rule) : ofSteps r.steps = .ok r := by
  unfold ofSteps
  split
  · rfl
  · simp_all [r.faultless]

end Rule

def Probe.scanIn (p : Probe) (text : String) (w : Window) : Except Fault Outcome :=
  let chars := text.toList.toArray
  match w.fault? chars.size with
  | none => .ok (p.scan chars w)
  | some fault => .error fault

end Scan
end Autocomplete
