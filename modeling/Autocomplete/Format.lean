import Autocomplete.Json.Value
import Autocomplete.Session

/-!
# Serialized forms

How settings, suggestions, items and findings are written as JSON and read back. A record is read
from an object, whose unknown fields are ignored, or from an array of its fields in order.
-/

namespace Autocomplete

namespace Json

/-- The values of the named fields of an object. A key without text or a repeated field is
refused. -/
def objectFields? (names : List String) (fields : List (Option String × Json)) :
    Option (List (Option Json)) :=
  let keys := fields.filterMap (·.1)
  if keys.length == fields.length && names.all fun name => keys.count name ≤ 1 then
    some (names.map fun name => (fields.find? (·.1 == some name)).map (·.2))
  else none

/-- The values of the named fields of a record. In an array every field has to be present, unless
`mayEndEarly` allows the last ones to be left out. -/
def record? (names : List String) (mayEndEarly : Bool) : Json → Option (List (Option Json))
  | object fields => objectFields? names fields
  | array items =>
    if items.length == names.length || (mayEndEarly && items.length < names.length) then
      some (items.map some ++ List.replicate (names.length - items.length) none)
    else none
  | _ => none

def required {α : Type} (read : Json → Option α) : Option Json → Option α
  | some j => read j
  | none => none

def withDefault {α : Type} (read : Json → Option α) (default : α) : Option Json → Option α
  | some j => read j
  | none => some default

def orNull {α : Type} (read : Json → Option α) : Json → Option (Option α)
  | null => some none
  | j => (read j).map some

end Json

open Json

namespace Settings

def fieldNames : List String := [
  "min_word_size", "max_word_size", "max_views", "max_words_per_view", "truncation_fix_budget_ms",
  "large_document_threshold", "indent_width", "type_guess_lines"]

/-- Reads settings; a field that is left out keeps its default. -/
def ofJson? (j : Json) : Option Settings :=
  let defaults : Settings := {}
  match record? fieldNames true j with
  | some [minSize, maxSize, documents, words, budget, large, width, lines] => do
    let minWordSize ← withDefault nat? defaults.minWordSize minSize
    let maxWordSize ← withDefault nat? defaults.maxWordSize maxSize
    let maxDocuments ← withDefault nat? defaults.maxDocuments documents
    let maxWordsPerDocument ← withDefault nat? defaults.maxWordsPerDocument words
    let repairBudget ← withDefault nat? defaults.repairBudget budget
    let largeDocument ← withDefault nat? defaults.largeDocument large
    let indentWidth ← withDefault nat? defaults.indentWidth width
    let contextLines ← withDefault nat? defaults.contextLines lines
    some {
      minWordSize, maxWordSize, maxDocuments, maxWordsPerDocument, repairBudget, largeDocument,
      indentWidth, contextLines }
  | _ => none

def parse? (text : String) : Option Settings := (Json.parse? text).bind ofJson?

def toJson (s : Settings) : Json :=
  .ofFields (fieldNames.zip ([
    s.minWordSize, s.maxWordSize, s.maxDocuments, s.maxWordsPerDocument, s.repairBudget,
    s.largeDocument, s.indentWidth, s.contextLines].map .ofNat))

end Settings

namespace Language

def name : Language → String
  | swift => "swift"
  | objectiveC => "objectivec"
  | react => "react"

def ofName? (name : String) : Option Language :=
  [swift, objectiveC, react].find? (·.name == name)

/-- Reads a language from its name, or from an object whose only field has that name and no
value. -/
def ofJson? : Json → Option Language
  | .string text => text.bind ofName?
  | .object [(key, .null)] => key.bind ofName?
  | _ => none

def toJson (l : Language) : Json := .ofString l.name

@[simp] theorem ofName?_name (l : Language) : ofName? l.name = some l := by
  cases l <;> rfl

end Language

namespace Suggestion

def ofJson? (j : Json) : Option Suggestion :=
  match record? ["name", "snippet"] false j with
  | some [name, snippet] => do some ⟨← required string? name, ← required string? snippet⟩
  | _ => none

def toJson (s : Suggestion) : Json :=
  .ofFields [("name", .ofString s.name), ("snippet", .ofString s.snippet)]

end Suggestion

namespace Item

def ofJson? (j : Json) : Option Item :=
  match record? ["label", "insert"] false j with
  | some [label, insert] => do some ⟨← required string? label, ← required string? insert⟩
  | _ => none

def toJson (i : Item) : Json :=
  .ofFields [("label", .ofString i.label), ("insert", .ofString i.insert)]

end Item

namespace Response

def ofJson? (j : Json) : Option Response :=
  match record? ["items", "insert_closing_paren"] false j with
  | some [items, closeCall] => do
    some ⟨← required (listOf? Item.ofJson?) items, ← required bool? closeCall⟩
  | _ => none

def toJson (r : Response) : Json :=
  .ofFields [("items", .ofList Item.toJson r.items), ("insert_closing_paren", .bool r.closeCall)]

end Response

namespace MemberMap

/-- Reads a map from an object; the last of repeated owners counts. -/
def ofJson? : Json → Option MemberMap
  | .object fields => fields.foldlM (fun members (owner, names) => do
      some (members.insert (← owner) (← listOf? string? names))) ∅
  | _ => none

def toJson (m : MemberMap) : Json :=
  .ofFields (m.toList.map fun (owner, names) => (owner, .ofList .ofString names))

end MemberMap

namespace Findings

def ofJson? (j : Json) : Option Findings :=
  match record? ["params", "methods", "enums", "names"] false j with
  | some [calls, members, cases, names] => do
    some {
      calls := ← required (listOf? Suggestion.ofJson?) calls
      members := ← withDefault (orNull MemberMap.ofJson?) none members
      cases := ← withDefault (orNull MemberMap.ofJson?) none cases
      names := ← required (listOf? string?) names }
  | _ => none

def toJson (f : Findings) : Json :=
  .ofFields [
    ("params", .ofList Suggestion.toJson f.calls),
    ("methods", .ofOption MemberMap.toJson f.members),
    ("enums", .ofOption MemberMap.toJson f.cases),
    ("names", .ofList .ofString f.names)]

end Findings

end Autocomplete
