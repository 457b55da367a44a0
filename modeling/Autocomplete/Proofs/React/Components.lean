import Autocomplete.Proofs.React.Assignments
import Autocomplete.Proofs.Text.FirstAppearances

/-!
# Components in the order of their assignments

The rule for components goes back to the start of the line after each occurrence of the keyword,
before text that it has read already. It goes on behind the keyword all the same. So no occurrence
hides another one, on its line or on a later one, and an occurrence whose line begins with another
character costs nothing but itself.
-/

namespace Autocomplete
namespace React

open Scan Text

variable {text : Array Char} {place : Nat} {name : Window}

/-- The assignments whose lines begin with a name, each with this name, from left to right. -/
def namedPlaces (text : Array Char) : List (Nat × Window) :=
  (keywordPlaces text).filterMap fun place => (nameAt? text place).map (place, ·)

theorem pairwise_namedPlaces (text : Array Char) :
    (namedPlaces text).Pairwise fun a b => a.1 < b.1 := by
  have hbeyond : ∀ place, occursAt text keyword place text.size = true →
      place < place + keyword.length := by
    intro place _
    have hlength := List.length_pos_iff.mpr keyword_ne_nil
    omega
  apply (pairwise_triedPlaces hbeyond).filterMap
  intro place place' hlt named hnamed named' hnamed'
  obtain ⟨name, -, rfl⟩ := Option.map_eq_some_iff.mp hnamed
  obtain ⟨name', -, rfl⟩ := Option.map_eq_some_iff.mp hnamed'
  exact hlt

theorem mem_namedPlaces :
    (place, name) ∈ namedPlaces text ↔ IsAssignment text place ∧ BeginsLine text place name := by
  simp only [namedPlaces, List.mem_filterMap, mem_keywordPlaces, Option.map_eq_some_iff,
    nameAt?_eq_some_iff, Prod.mk.injEq]
  constructor
  · rintro ⟨place, hplace, name, ⟨hmore, hname⟩, rfl, rfl⟩
    exact ⟨⟨hplace, hmore⟩, hname⟩
  · rintro ⟨⟨hplace, hmore⟩, hname⟩
    exact ⟨place, hplace, name, ⟨hmore, hname⟩, rfl, rfl⟩

theorem findAll_eq_namedPlaces (text : String) :
    assignments.findAll text =
      (namedPlaces text.toList.toArray).map fun named =>
        [.text (nameText text.toList.toArray named.2)] := by
  have hnames : (namedPlaces text.toList.toArray).map (·.2) =
      (keywordPlaces text.toList.toArray).filterMap (nameAt? text.toList.toArray) := by
    rw [namedPlaces, List.map_filterMap]
    congr 1
    funext place
    rw [Option.map_map]
    exact Option.map_id'
  rw [findAll_assignments, ← hnames, List.map_map]
  rfl

theorem components_eq (text : String) :
    components text =
      distinct ((namedPlaces text.toList.toArray).map fun named =>
        nameText text.toList.toArray named.2) := by
  have hread : (fun m : Match => m.text? 0) ∘
      (fun named : Nat × Window => [.text (nameText text.toList.toArray named.2)]) =
      some ∘ fun named => nameText text.toList.toArray named.2 := rfl
  rw [components, findAll_eq_namedPlaces, List.filterMap_map, hread, List.filterMap_eq_map]

/-- The rule finds each assignment whose line begins with a name, once and from left to right. The
components are the names that it finds, each once, in the order of their first appearances. -/
theorem components_appear_in_order (text : String) :
    let chars := text.toList.toArray
    ∃ found : List (Nat × Window),
      (found.Pairwise fun a b => a.1 < b.1) ∧
      (∀ place name, (place, name) ∈ found ↔
        IsAssignment chars place ∧ BeginsLine chars place name) ∧
      assignments.findAll text = found.map (fun named => [.text (nameText chars named.2)]) ∧
      FirstAppearances (found.map fun named => nameText chars named.2) (components text) := by
  intro chars
  refine ⟨namedPlaces chars, pairwise_namedPlaces chars, fun _ _ => mem_namedPlaces,
    findAll_eq_namedPlaces text, ?_⟩
  rw [components_eq]
  exact firstAppearances_distinct _

/-- The keyword twice on a line that begins with a name, and once on a line that does not. -/
example :
    let text := "A = React.createClass = React.createClass(\n B = React.createClass("
    (assignments.findAll text).length = 2 ∧ components text = ["A"] := by
  decide +kernel

end React
end Autocomplete
