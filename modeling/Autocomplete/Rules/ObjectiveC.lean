import Autocomplete.Scan.Rule
import Autocomplete.Snippet
import Autocomplete.Suggestion
import Autocomplete.Text.Casing

/-!
# Objective-C headers

Headers are read line by line. The last `@interface` name is kept, so that initializers are offered
under the name of their class.
-/

namespace Autocomplete
namespace ObjectiveC

open Scan Text

/-- `- (type)part:(type)name part:(type)name`, one match for each part. -/
def methodParts : Rule where
  steps := [
    Step.literal "- (",
    Step.backward 1,
    Step.bracket '(' ')',
    Step.spacedWord.saving.repeating,
    Step.literal ":",
    Step.bracket '(' ')',
    Step.word.saving]
  faultless := rfl

def interfaceName : Rule where
  steps := [Step.literal "@interface", Step.spacedWord.saving]
  faultless := rfl

/-- What a trimmed line declares. -/
inductive LineKind where
  | interface
  | initializer
  | method
  | other
  deriving DecidableEq, Repr

namespace LineKind

def ofLine (line : List Char) : LineKind :=
  if contains "@interface ".toList line then interface
  else if "- (instancetype)".toList.isPrefixOf line ||
      "- (nullable instancetype)".toList.isPrefixOf line then initializer
  else if "- (".toList.isPrefixOf line then method
  else other

end LineKind

/-- The label of the first argument of an initializer: the rest of its name after `initWith`, with
a lowercase first letter, or the whole name. -/
def initializerLabel (selector : String) : String :=
  match "initWith".toList.isPrefixOf? selector.toList with
  | some (first :: rest) => String.ofList (lowerChar first ++ rest)
  | _ => selector

/-- The labelled arguments for the remaining selector parts, with tab stops from `index` on. -/
def laterArguments (index : Nat) : List (String × String) → String
  | [] => ""
  | (part, name) :: rest =>
    ", " ++ Snippet.labeled part (Snippet.placeholder index name) ++ laterArguments (index + 1) rest

def partsOf (line : String) : List (String × String) :=
  (methodParts.findAll line).filterMap Match.pair?

/-- The suggestion that a declaration line makes below the given interface. -/
def suggestion? (interface : Option String) (line : String) : LineKind → Option Suggestion
  | .initializer =>
    match partsOf line, interface with
    | (part, name) :: rest, some owner =>
      some ⟨owner, Snippet.labeled (initializerLabel part) (Snippet.placeholder 1 name) ++
        laterArguments 2 rest⟩
    | _, _ => none
  | .method =>
    match partsOf line with
    | (part, name) :: rest => some ⟨part, Snippet.placeholder 1 name ++ laterArguments 2 rest⟩
    | [] => none
  | _ => none

def interfaceAfter (interface : Option String) (line : String) : Option String :=
  ((interfaceName.findAll line).head?.bind (Match.text? · 0)).or interface

/-- The suggestions of trimmed lines below the given interface. -/
def methodsBelow : (interface : Option String) → List (List Char) → List Suggestion
  | _, [] => []
  | interface, line :: rest =>
    let kind := LineKind.ofLine line
    if kind = .interface then methodsBelow (interfaceAfter interface (String.ofList line)) rest
    else (suggestion? interface (String.ofList line) kind).toList ++ methodsBelow interface rest

/-- The method and initializer suggestions of a header. -/
def methods (text : String) : List Suggestion :=
  methodsBelow none ((lines text.toList).map trim)

end ObjectiveC
end Autocomplete
