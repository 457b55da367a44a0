import Std.Data.ExtTreeMap
import Autocomplete.Scan.Rule

/-!
# Guessing the type of a variable

The type of a variable is guessed from its last mention as `name = Type` or `name: Type`. The last
guess for each variable is remembered for texts without such a mention.
-/

namespace Autocomplete

open Scan

abbrev TypeGuesses := Std.ExtTreeMap String String

namespace TypeGuesses

/-- A variable, an equals sign or a colon, and the capitalized name of a type. -/
def mention (name : String) : List Step := [
  (Step.literal name).repeating,
  Step.spaces,
  Step.oneOfAtStart ["=", ":"],
  Step.spaces,
  Step.capitalizedWord.saving]

def mentioned? (name text : String) : Option String :=
  (searchAll (mention name) text.toList.toArray).getLast?.bind (Match.text? · 0)

/-- Guesses the type of a variable, and remembers it. The empty name has no type. -/
def guess (guesses : TypeGuesses) (name text : String) : Option String × TypeGuesses :=
  if name = "" then (none, guesses)
  else match mentioned? name text with
    | some type => (some type, guesses.insert name type)
    | none => (guesses[name]?, guesses)

theorem ruleFault?_mention {name : String} (h : name ≠ "") :
    ruleFault? (mention name) = none := by
  have h' : name.toList.isEmpty = false := by
    simpa using h
  simp [ruleFault?, mention, stepsFault?, stepFault?, transformFault?, Probe.fault?, Step.literal,
    Step.plain, Step.repeating, Step.spaces, Step.run, Step.oneOfAtStart, Step.capitalizedWord,
    Step.saving, h']

end TypeGuesses

end Autocomplete
