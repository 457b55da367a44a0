import Autocomplete.Outline
import Autocomplete.Rules.ObjectiveC
import Autocomplete.Rules.React
import Autocomplete.Rules.Swift
import Autocomplete.Settings

/-!
# The findings of a source

The rules of its language are applied to the text of a whole document. Large sources are reduced or
skipped.
-/

namespace Autocomplete

/-- The language of a source, which selects the rules applied to it. -/
inductive Language where
  | swift
  | objectiveC
  | react
  deriving DecidableEq, Repr

namespace Findings

/-- Whether a text is long enough for the reductions of large documents. -/
def isLarge (settings : Settings) (text : String) : Bool :=
  settings.largeDocument ≤ text.length

/-- The findings of a Swift source. A large one is scanned for calls alone, without its bodies. -/
def ofSwift (settings : Settings) (source : String) : Findings :=
  let text := Outline.dropComments source
  if isLarge settings text then
    { calls := Swift.calls (Outline.dropBodies settings.indentWidth text) }
  else
    { calls := Swift.calls text
      members := some (Swift.memberMap text)
      cases := some (Swift.caseMap text) }

def ofObjectiveC (source : String) : Findings := { calls := ObjectiveC.methods source }

/-- The findings of a React source. A large one is skipped. -/
def ofReact (settings : Settings) (source : String) : Findings :=
  let text := Outline.dropComments source
  if isLarge settings text then {} else { names := React.components text }

def ofSource (settings : Settings) (source : String) : Language → Findings
  | .swift => ofSwift settings source
  | .objectiveC => ofObjectiveC source
  | .react => ofReact settings source

end Findings

end Autocomplete
