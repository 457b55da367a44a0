import Autocomplete.Scan.Rule
import Autocomplete.Text.Distinct

/-!
# React components

The names to which `React.createClass` is assigned, and the owner part of a dotted name that is
being typed.
-/

namespace Autocomplete
namespace React

open Scan Text

/-- The dotted name at the start of a line that assigns a component. -/
def assignments : Rule where
  steps := [
    (Step.oneOf [" = React.createClass"]).repeating,
    Step.lineStart,
    Step.path.saving]
  faultless := rfl

def components (text : String) : List String :=
  distinct ((assignments.findAll text).filterMap (Match.text? · 0))

/-- The owner part, up to the last dot, of the dotted name at the end of a text. -/
def typedOwner (before : String) : String :=
  String.ofList ((before.toList.reverse.takeWhile isPathChar).dropWhile (· != '.')).reverse

end React
end Autocomplete
