import Autocomplete.Proofs.Snippet.TabStops
import Autocomplete.Proofs.Text.Lines

/-!
# Numbered arguments

The arguments of a call and of a memberwise initializer are numbered in order. What is read of a
parameter consists of words and blanks, so the source adds no mark of a tab stop to a snippet.
-/

namespace Autocomplete
namespace Snippet

open Text

theorem isPart_of_mem_words {piece word : List Char} {words : List (List Char)}
    (h : (Parameter.words? piece).map List.reverse = some words) (hword : word ∈ words) :
    word ≠ [] ∧ ∀ c ∈ word, (isWideWordChar c || isBlank c) = true := by
  obtain ⟨inOrder, hread, rfl⟩ := Option.map_eq_some_iff.mp h
  rw [List.mem_reverse] at hword
  unfold Parameter.words? at hread
  dsimp only at hread
  split at hread
  · obtain rfl := Option.some.inj hread
    obtain ⟨hsplit, hne⟩ := List.mem_filter.mp hword
    refine ⟨by simpa using hne, ?_⟩
    intro c hc
    exact List.all_eq_true.mp List.all_takeWhile c (mem_of_mem_splitOnP hsplit c hc)
  · simp at hread

theorem isPart_of_parse {piece : List Char} {p : Parameter}
    (h : Parameter.parse? piece = some p) :
    p.name.toList ≠ [] ∧
      ∀ c ∈ p.label.toList ++ p.name.toList, (isWideWordChar c || isBlank c) = true := by
  unfold Parameter.parse? at h
  split at h
  · rename_i name label rest hwords
    obtain rfl := Option.some.inj h
    obtain ⟨hne, hname⟩ := isPart_of_mem_words hwords List.mem_cons_self
    obtain ⟨-, hlabel⟩ :=
      isPart_of_mem_words hwords (List.mem_cons_of_mem name List.mem_cons_self)
    simpa only [String.toList_ofList] using ⟨hne, List.forall_mem_append.mpr ⟨hlabel, hname⟩⟩
  · rename_i name hwords
    obtain rfl := Option.some.inj h
    obtain ⟨hne, hname⟩ := isPart_of_mem_words hwords List.mem_cons_self
    simpa only [String.toList_ofList] using ⟨hne, List.forall_mem_append.mpr ⟨hname, hname⟩⟩
  · simp at h

theorem plain_of_parse {piece : List Char} {p : Parameter}
    (h : Parameter.parse? piece = some p) :
    Plain p.label.toList ∧ p.name.toList ≠ [] ∧ Plain p.name.toList := by
  obtain ⟨hne, hpart⟩ := isPart_of_parse h
  obtain ⟨hlabel, hname⟩ := List.forall_mem_append.mp hpart
  exact ⟨plain_of_all (by decide) hlabel, hne, plain_of_all (by decide) hname⟩

/-- The first argument of a function takes two numbers, any other takes one. -/
theorem numbered_arguments (firstOfFunction : Bool) (index : Nat) (pieces : List (List Char)) :
    ∃ count, pieces.length ≤ count ∧
      Numbered index count (", ".intercalate (arguments firstOfFunction index pieces)) := by
  induction pieces generalizing firstOfFunction index with
  | nil => exact ⟨0, Nat.le_refl 0, by simpa [arguments] using numbered_empty index⟩
  | cons piece rest ih =>
    unfold arguments
    split
    · obtain ⟨count, hcount, hrest⟩ := ih false (index + 1)
      refine ⟨1 + count, by simp; omega, ?_⟩
      exact (numbered_tabStop index).intercalate_cons hrest
    · rename_i p hparse
      obtain ⟨hlabel, hne, hname⟩ := plain_of_parse hparse
      have hnamed := numbered_placeholder index hne hname
      split
      · -- The tab stop behind the first parameter takes the next number.
        obtain ⟨count, hcount, hrest⟩ := ih false (index + 2)
        have hfirst := hnamed.append (numbered_tabStop (index + 1)) (by simp [tabStop])
        exact ⟨2 + count, by simp; omega, hfirst.intercalate_cons hrest⟩
      · obtain ⟨count, hcount, hrest⟩ := ih false (index + 1)
        refine ⟨1 + count, by simp; omega, ?_⟩
        exact (numbered_labeled hlabel hnamed).intercalate_cons hrest

theorem numbered_fieldArguments {fields : List String} (h : ∀ f ∈ fields, Plain f.toList)
    (index : Nat) :
    Numbered index fields.length (", ".intercalate (fieldArguments index fields)) := by
  induction fields generalizing index with
  | nil => simpa [fieldArguments] using numbered_empty index
  | cons f fields ih =>
    have hfirst := numbered_labeled (h f List.mem_cons_self) (numbered_emptyPlaceholder index)
    have hrest := ih (fun g hg => h g (List.mem_cons_of_mem f hg)) (index + 1)
    rw [List.length_cons, Nat.add_comm]
    exact hfirst.intercalate_cons hrest

theorem wellNumbered_memberwise {fields : List String} (h : ∀ f ∈ fields, Plain f.toList)
    (hne : fields ≠ []) : WellNumbered (memberwise fields) :=
  (numbered_fieldArguments h 1).wellNumbered (List.length_pos_iff.mpr hne)

end Snippet
end Autocomplete
