import Autocomplete.Findings
import Autocomplete.Snippet
import Autocomplete.Text.Casing

/-!
# The store of findings

The findings of each document are kept under its identifier; the last write wins. The queries go
through the documents in ascending order of their identifiers.
-/

namespace Autocomplete

abbrev Store := Std.ExtTreeMap Nat Findings

namespace Store

open Text

def put (s : Store) (id : Nat) (findings : Findings) : Store := s.insert id findings

def forget (s : Store) (id : Nat) : Store := s.erase id

def callCount (s : Store) : Nat := (s.values.flatMap (·.calls)).length

/-- The arguments for the calls whose name starts with `word`, whatever the case of both. The
inserted text closes the call. -/
def callItems (s : Store) (word : String) : List Item :=
  Item.prune (((s.values.flatMap (·.calls)).filter (startsWithIgnoringCase word ·.name)).map
    fun c => ⟨c.snippet, c.snippet ++ ")"⟩)

theorem mem_callItems {s : Store} {word : String} {i : Item} :
    i ∈ s.callItems word ↔
      ∃ f ∈ s.values, ∃ c ∈ f.calls, startsWithIgnoringCase word c.name = true ∧
        i = ⟨c.snippet, c.snippet ++ ")"⟩ := by
  simp only [callItems, Item.mem_prune, List.mem_map, List.mem_filter, List.mem_flatMap]
  constructor
  · rintro ⟨c, ⟨⟨f, hf, hc⟩, hstarts⟩, rfl⟩
    exact ⟨f, hf, c, hc, hstarts, rfl⟩
  · rintro ⟨f, hf, c, hc, hstarts, rfl⟩
    exact ⟨c, ⟨⟨f, hf, hc⟩, hstarts⟩, rfl⟩

def memberItems (s : Store) (type : String) : List Item :=
  Item.prune ((s.values.flatMap fun f => ((f.members.bind (·[type]?)).getD [])).map
    fun member => ⟨member ++ "\t+", member⟩)

/-- The enumerations of all documents, each with its cases. -/
def enumerations (s : Store) : List (String × List String) :=
  (s.values.filterMap (·.cases)).flatMap (·.toList)

def enumerationItems (s : Store) : List Item :=
  s.enumerations.flatMap fun (name, cases) =>
    cases.map fun case => ⟨name ++ "." ++ case, case⟩

/-- The whole switch body of each enumeration, then every single case. -/
def caseItems (s : Store) : List Item :=
  Item.prune ((s.enumerations.map fun (name, cases) => ⟨name, Snippet.switchCases cases⟩) ++
    (s.enumerations.flatMap (·.2)).map fun case => ⟨case, case⟩)

/-- A name without the part that is already typed, if it starts with that part. -/
def withoutOwner (owner name : String) : String :=
  match owner.toList.isPrefixOf? name.toList with
  | some rest => String.ofList rest
  | none => name

/-- The plain names, completed after the owner part that is already typed. -/
def nameItems (s : Store) (owner : String) : List Item :=
  (distinct (s.values.flatMap (·.names))).map
    fun name => ⟨name ++ "\t:", Snippet.escape (withoutOwner owner name)⟩

end Store

end Autocomplete
