import Autocomplete.Text.Distinct

/-!
# Suggestions and items

A suggestion is a name with the snippet that completes it. An item is what is offered for
completion.
-/

namespace Autocomplete

/-- A function or type name with its snippet. -/
structure Suggestion where
  name : String
  snippet : String
  deriving DecidableEq, Repr

/-- A completion entry: the text shown, in which a tab separates trigger and annotation, and the
snippet that is inserted. -/
structure Item where
  label : String
  insert : String
  deriving DecidableEq, Repr

namespace Item

def prune (items : List Item) : List Item := distinctBy (fun i => (i.label, i.insert)) items

theorem mem_prune {items : List Item} {i : Item} : i ∈ prune items ↔ i ∈ items := by
  constructor
  · intro h
    exact (distinctBy_sublist _ _).subset h
  · intro h
    have hkey : (i.label, i.insert) ∈ items.map fun i => (i.label, i.insert) :=
      List.mem_map_of_mem h
    obtain ⟨⟨label, insert⟩, hj, heq⟩ := List.mem_map.mp (mem_map_distinctBy.mpr hkey)
    obtain ⟨rfl, rfl⟩ := Prod.mk.inj heq
    exact hj

end Item

end Autocomplete
