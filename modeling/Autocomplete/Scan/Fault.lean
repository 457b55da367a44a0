import Autocomplete.Scan.Step

/-!
# Faults of rules and windows

The misuses that are refused before anything is scanned. The text itself is never at fault: an
unbalanced bracket or a cut off buffer only fails to match.
-/

namespace Autocomplete
namespace Scan

/-- Why a list of steps is no rule, or a window cannot be scanned. -/
inductive Fault where
  /-- A rule or a transform without steps. -/
  | emptyRule
  /-- An empty literal, or an empty list of literals. -/
  | emptyLiteral
  /-- A bracket whose two characters are equal, so that depth cannot be counted. -/
  | ambiguousBracket (delimiter : Char)
  /-- A transform of a text that is not captured. -/
  | transformWithoutCapture
  /-- A window that is reversed or ends past the text. -/
  | windowOutOfBounds (window : Window) (length : Nat)
  deriving DecidableEq, Repr

namespace Fault

def message : Fault → String
  | emptyRule => "pattern has no expectations"
  | emptyLiteral => "empty literal cannot be matched"
  | ambiguousBracket delimiter =>
    "bracket pair uses '" ++ delimiter.toString ++ "' as both open and close delimiter"
  | transformWithoutCapture =>
    "transform attached to an expectation that does not save its match"
  | windowOutOfBounds w length =>
    "scan window " ++ toString w.start ++ ".." ++ toString w.stop ++
      " is outside a buffer of " ++ toString length ++ " chars"

end Fault

def Window.fault? (w : Window) (length : Nat) : Option Fault :=
  if w.Within length then none else some (.windowOutOfBounds w length)

theorem Window.fault?_eq_none_iff {w : Window} {length : Nat} :
    w.fault? length = none ↔ w.Within length := by
  simp [Window.fault?]

def Probe.fault? : Probe → Option Fault
  | .literal text => if text.isEmpty then some .emptyLiteral else none
  | .oneOf texts | .oneOfAtStart texts =>
    if texts.isEmpty || texts.any List.isEmpty then some .emptyLiteral else none
  | .bracket opening closing =>
    if opening = closing then some (.ambiguousBracket opening) else none
  | .shifted inner _ => inner.fault?
  | .orElse first second => first.fault?.or second.fault?
  | .run _ _ | .spacedWord | .backward _ | .lineStart => none

mutual

/-- The first fault of a list of steps, in the order of the steps. -/
def stepsFault? : List Step → Option Fault
  | [] => none
  | step :: rest => (stepFault? step).or (stepsFault? rest)
termination_by structural steps => steps

/-- The first fault of a step: that of its probe, then that of its transform. -/
def stepFault? : Step → Option Fault
  | ⟨probe, captured, _, _, transform⟩ => probe.fault?.or (transformFault? transform captured)
termination_by structural s => s

/-- The first fault of a transform: that nothing is captured, that it is empty, or that of its
steps. -/
def transformFault? : Option (List Step) → (captured : Bool) → Option Fault
  | none, _ => none
  | some steps, captured =>
    if captured then if steps.isEmpty then some .emptyRule else stepsFault? steps
    else some .transformWithoutCapture
termination_by structural steps => steps

end

def ruleFault? (steps : List Step) : Option Fault :=
  if steps.isEmpty then some .emptyRule else stepsFault? steps

theorem stepFault?_eq (s : Step) :
    stepFault? s = s.probe.fault?.or (transformFault? s.transform s.captured) := by
  obtain ⟨_, _, _, _, _⟩ := s
  rfl

theorem stepsFault?_eq_none_iff {steps : List Step} :
    stepsFault? steps = none ↔
      ∀ s ∈ steps, s.probe.fault? = none ∧ transformFault? s.transform s.captured = none := by
  induction steps with
  | nil => simp [stepsFault?]
  | cons s rest ih =>
    rw [stepsFault?, Option.or_eq_none_iff, ih, stepFault?_eq, Option.or_eq_none_iff]
    simp only [List.forall_mem_cons]

theorem ruleFault?_eq_none_iff {steps : List Step} :
    ruleFault? steps = none ↔ steps ≠ [] ∧ stepsFault? steps = none := by
  cases steps <;> simp [ruleFault?]

/-- A transform without fault belongs to a step that captures, and is a rule of its own. -/
theorem transformFault?_eq_none_iff {steps : List Step} {captured : Bool} :
    transformFault? (some steps) captured = none ↔
      captured = true ∧ ruleFault? steps = none := by
  cases captured with
  | false => simp [transformFault?]
  | true => simp [transformFault?, ruleFault?]

end Scan
end Autocomplete
