import Autocomplete.Proofs.Store.Duplicates
import Autocomplete.Proofs.Text.FirstAppearances

/-!
# The stored documents in order

The queries of a store go through the documents in ascending order of their identifiers, and through
the findings of each in the order in which they stand there. What is offered more than once keeps
the place at which it came first.
-/

namespace Autocomplete
namespace Store

open Text

/-- The stored documents, each with its findings, in ascending order of the identifiers. -/
structure Listed (s : Store) (entries : List (Nat × Findings)) : Prop where
  ascending : entries.Pairwise fun a b => a.1 < b.1
  mem_iff : ∀ id f, (id, f) ∈ entries ↔ s[id]? = some f

theorem listed_toList (s : Store) : s.Listed s.toList where
  ascending := s.ordered_keys_toList.imp Nat.compare_eq_lt.mp
  mem_iff _ _ := Std.ExtTreeMap.mem_toList_iff_getElem?_eq_some

theorem flatMap_values {α : Type} (s : Store) (f : Findings → List α) :
    s.values.flatMap f = s.toList.flatMap (f ·.2) := by
  rw [values_eq_map_toList, List.flatMap_map]

/-- The items for the calls of some documents whose name starts with `name`, whatever the case. -/
def callsOf (entries : List (Nat × Findings)) (name : String) : List Item :=
  ((entries.flatMap (·.2.calls)).filter (startsWithIgnoringCase name ·.name)).map
    fun c => ⟨c.snippet, c.snippet ++ ")"⟩

theorem firstAppearances_callItems (s : Store) (name : String) :
    FirstAppearances (callsOf s.toList name) (s.callItems name) := by
  rw [callItems, flatMap_values]
  exact Item.firstAppearances_prune _

end Store
end Autocomplete
