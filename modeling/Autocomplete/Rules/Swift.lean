import Autocomplete.Findings
import Autocomplete.Scan.Rule
import Autocomplete.Snippet

/-!
# Swift declarations

Scanning rules for functions, initializers, members and enumeration cases. They look for keywords
in sequence and accept being wrong about unusual formatting.
-/

namespace Autocomplete
namespace Swift

open Scan

/-- `func name(parameters)`. -/
def functions : Rule where
  steps := [
    (Step.literal "func").repeating,
    Step.spaces,
    Step.word.saving,
    Step.spaces,
    (Step.bracket '(' ')').saving]
  faultless := rfl

/-- A keyword, a name and a body in braces, inside which the steps of `inner` scan. -/
def insideBody (keyword : Step) (inner : List Step) : List Step :=
  [keyword, Step.spaces, Step.word.saving, Step.literal "\x7b", Step.backward 1,
    (Step.bracket '{' '}').entering] ++ inner

/-- The first initializer of each class. -/
def classInitializers : Rule where
  steps := insideBody (Step.literal "class").repeating
    [Step.literal " init", Step.spaces, (Step.bracket '(' ')').saving]
  faultless := rfl

/-- Each structure with the names of its fields. -/
def structures : Rule where
  steps := [
    (Step.literal "struct").repeating,
    Step.spaces,
    Step.word.saving,
    Step.literal "\x7b",
    Step.backward 1,
    (Step.bracket '{' '}').saving.rescanning [
      (Step.oneOf ["let", "var"]).repeating,
      Step.spaces,
      Step.word.saving]]
  faultless := rfl

/-- Each class or protocol with each of its members. -/
def members : Rule where
  steps := insideBody (Step.oneOf ["class", "protocol"]).repeating
    [(Step.oneOf ["func", "var", "let"]).repeating, Step.someSpaces, Step.word.saving]
  faultless := rfl

/-- Each enumeration with each of its cases. -/
def cases : Rule where
  steps := insideBody (Step.literal "enum ").repeating
    [(Step.literal "case ").repeating, Step.spaces, Step.word.saving]
  faultless := rfl

def dropOuter (text : String) : String := String.ofList text.toList.tail.dropLast

/-- A name that starts with a lowercase letter belongs to a function, any other to a type. -/
def isFunctionName (name : String) : Bool := name.toList.head?.any Text.isLowercase

/-- The call suggestion for a name and its bracketed parameter list, unless it has no arguments. -/
def suggestion? (name parameters : String) : Option Suggestion :=
  let snippet := Snippet.call (dropOuter parameters) (isFunctionName name)
  if snippet = "()" then none else some ⟨name, dropOuter snippet⟩

def memberwise? (m : Match) : Option Suggestion :=
  match m.text? 0, m.inner? 1 with
  | some name, some found =>
    let fields := found.filterMap (Match.text? · 0)
    if fields.isEmpty then none else some ⟨name, Snippet.memberwise fields⟩
  | _, _ => none

/-- Call suggestions for functions, then for class initializers, then for structures. -/
def calls (text : String) : List Suggestion :=
  ((functions.findAll text ++ classInitializers.findAll text).filterMap Match.pair?).filterMap
      (fun (name, parameters) => suggestion? name parameters) ++
    (structures.findAll text).filterMap memberwise?

/-- The pairs among the matches, grouped by their first parts. -/
def grouped (found : List Match) : MemberMap :=
  .ofPairs ((found.filter (·.length == 2)).filterMap Match.pair?)

def memberMap (text : String) : MemberMap := grouped (members.findAll text)

def caseMap (text : String) : MemberMap := grouped (cases.findAll text)

end Swift
end Autocomplete
