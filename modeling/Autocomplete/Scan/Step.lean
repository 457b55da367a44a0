import Autocomplete.Scan.Probe

/-!
# Steps and captures

A step is a probe with four settings: whether the matched text is captured, whether the step keeps
searching after a failure and after a success, whether the following steps scan inside its hit
rather than after it, and an optional list of steps that rescans the captured text.
-/

namespace Autocomplete
namespace Scan

structure Step where
  probe : Probe
  captured : Bool := false
  looping : Bool := false
  nested : Bool := false
  transform : Option (List Step) := none

namespace Step

/-- A probe with all settings off. -/
def plain (probe : Probe) : Step := { probe }

def literal (text : String) : Step := plain (.literal text.toList)

def oneOf (texts : List String) : Step := plain (.oneOf (texts.map String.toList))

def oneOfAtStart (texts : List String) : Step :=
  plain (.oneOfAtStart (texts.map String.toList))

def run (kind : CharKind) (mayBeEmpty : Bool) : Step := plain (.run kind mayBeEmpty)

/-- A nonempty run of alphanumerics and `_`. -/
def word : Step := run .word false

/-- Any number of spaces, tabs and newlines. -/
def spaces : Step := run .space true

/-- One or more spaces, tabs and newlines. -/
def someSpaces : Step := run .space false

def upTo (excluded : List Char) : Step := run (.noneOf excluded) true

def capitalizedWord : Step := run .capitalized false

/-- A nonempty run of alphanumerics, `_` and `.`. -/
def path : Step := run .path false

def spacedWord : Step := plain .spacedWord

def bracket (opening closing : Char) : Step := plain (.bracket opening closing)

/-- Moves `count` characters back. -/
def backward (count : Nat) : Step := plain (.backward count)

def lineStart : Step := plain .lineStart

/-- The hit of `inner` with its end moved; the settings of `inner` do not count. -/
def shifted (inner : Step) (delta : Int) : Step := plain (.shifted inner.probe delta)

/-- `first`, or `second` where `first` misses; the settings of both do not count. -/
def orElse (first second : Step) : Step := plain (.orElse first.probe second.probe)

/-- Keeps searching after a failure, and keeps going after a success. -/
def repeating (s : Step) : Step := { s with looping := true }

/-- Lets the following steps scan inside the hit. -/
def entering (s : Step) : Step := { s with nested := true }

def saving (s : Step) : Step := { s with captured := true }

def rescanning (s : Step) (steps : List Step) : Step := { s with transform := some steps }

end Step

/-- What a step captured: its text, or the matches found in that text. A match is the list of its
captures in the order of the steps. -/
inductive Capture where
  | text (value : String)
  | inner (found : List (List Capture))

abbrev Match := List Capture

namespace Capture

def text? : Capture → Option String
  | text value => some value
  | inner _ => none

def inner? : Capture → Option (List Match)
  | text _ => none
  | inner found => some found

end Capture

namespace Match

def text? (m : Match) (index : Nat) : Option String := m[index]?.bind Capture.text?

def inner? (m : Match) (index : Nat) : Option (List Match) := m[index]?.bind Capture.inner?

/-- The first two captures, where both are texts. -/
def pair? (m : Match) : Option (String × String) :=
  match m.text? 0, m.text? 1 with
  | some first, some second => some (first, second)
  | _, _ => none

end Match

end Scan
end Autocomplete
