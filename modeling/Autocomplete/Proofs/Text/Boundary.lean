import Autocomplete.Text.Boundary
import Mathlib.Data.List.Basic

/-!
# Whole occurrences of a word

A text is searched for a word with one character of memory, the one before the place of the search.
What is found are the places where the text splits into what is before the word, the word and what
is after it, with boundaries at both cuts. The extensions of a word are such occurrences of the word
with one more character, and there is none exactly if the text has no such occurrence.
-/

namespace Autocomplete
namespace Text

/-- A word occurs in a text between two boundaries. -/
def Whole (word text : List Char) : Prop :=
  ∃ front back, text = front ++ (word ++ back) ∧
    isBoundary front.getLast? word.head? = true ∧ isBoundary word.getLast? back.head? = true

/-- A word does not occur whole in a text, but does so with one more word character. -/
def CutOff (word text : List Char) : Prop :=
  ¬Whole word text ∧ ∃ c, isWideWordChar c = true ∧ Whole (word ++ [c]) text

variable {word : List Char}

/-- The last character of what was passed is the one that the search remembers. -/
theorem getLast?_cons_or (c : Char) (front : List Char) (before : Option Char) :
    (c :: front).getLast?.or before = front.getLast?.or (some c) := by
  cases h : front.getLast? <;> simp [List.getLast?_cons, h]

theorem wholeAt_iff (hne : word ≠ []) {before : Option Char} {text : List Char} :
    wholeAt word before text = true ↔
      ∃ back, text = word ++ back ∧ isBoundary before word.head? = true ∧
        isBoundary word.getLast? back.head? = true := by
  obtain ⟨c, rest, rfl⟩ := List.exists_cons_of_ne_nil hne
  simp only [wholeAt, Bool.and_eq_true, List.isPrefixOf_iff_prefix]
  constructor
  · rintro ⟨⟨hfront, back, rfl⟩, hback⟩
    rw [List.drop_left] at hback
    exact ⟨back, rfl, hfront, by simpa [List.getLast?_cons] using hback⟩
  · rintro ⟨back, rfl, hfront, hback⟩
    rw [List.drop_left]
    exact ⟨⟨hfront, List.prefix_append _ _⟩, by simpa [List.getLast?_cons] using hback⟩

theorem occursWhole_append {front text : List Char} {before : Option Char}
    (h : wholeAt word (front.getLast?.or before) text = true) :
    occursWhole word before (front ++ text) = true := by
  -- The search carries the last character along, which is what the word is preceded by.
  induction front generalizing before with
  | nil => cases text <;> simp_all [occursWhole]
  | cons c rest ih =>
    rw [getLast?_cons_or] at h
    rw [List.cons_append, occursWhole, ih h, Bool.or_true]

theorem exists_wholeAt_of_occursWhole {before : Option Char} {text : List Char}
    (h : occursWhole word before text = true) :
    ∃ front rest, text = front ++ rest ∧ wholeAt word (front.getLast?.or before) rest = true := by
  induction text generalizing before with
  | nil => exact ⟨[], [], rfl, h⟩
  | cons c text ih =>
    rw [occursWhole, Bool.or_eq_true] at h
    rcases h with h | h
    · exact ⟨[], c :: text, rfl, h⟩
    · obtain ⟨front, rest, rfl, hwhole⟩ := ih h
      exact ⟨c :: front, rest, rfl, by rwa [getLast?_cons_or]⟩

theorem occursWhole_iff (hne : word ≠ []) {text : List Char} :
    occursWhole word none text = true ↔ Whole word text := by
  constructor
  · intro h
    obtain ⟨front, rest, rfl, hwhole⟩ := exists_wholeAt_of_occursWhole h
    obtain ⟨back, rfl, hfront, hback⟩ := (wholeAt_iff hne).mp hwhole
    exact ⟨front, back, rfl, by simpa using hfront, hback⟩
  · rintro ⟨front, back, rfl, hfront, hback⟩
    apply occursWhole_append
    rw [Option.or_none]
    exact (wholeAt_iff hne).mpr ⟨back, rfl, hfront, hback⟩

/-! ### Extensions -/

theorem extensionAt?_eq_some_iff (hne : word ≠ []) {before : Option Char} {text : List Char}
    {c : Char} :
    extensionAt? word before text = some c ↔
      isWideWordChar c = true ∧ ∃ back, text = word ++ c :: back ∧
        isBoundary before word.head? = true ∧ isBoundary (some c) back.head? = true := by
  obtain ⟨d, rest, rfl⟩ := List.exists_cons_of_ne_nil hne
  unfold extensionAt?
  constructor
  · intro h
    split at h
    next hstart =>
      rw [Bool.and_eq_true, List.isPrefixOf_iff_prefix] at hstart
      obtain ⟨hfront, back, rfl⟩ := hstart
      rw [List.drop_left] at h
      split at h
      next c' back =>
        split at h
        next hlast =>
          obtain rfl := Option.some.inj h
          rw [Bool.and_eq_true] at hlast
          exact ⟨hlast.1, back, rfl, hfront, hlast.2⟩
        next => simp at h
      next => simp at h
    next => simp at h
  · rintro ⟨hwide, back, rfl, hfront, hback⟩
    rw [if_pos (by simpa using hfront), List.drop_left]
    simp [hwide, hback]

theorem exists_extensionAt_of_mem_extensions {skip : Nat} {before : Option Char}
    {text run : List Char} (h : run ∈ extensions word skip before text) :
    ∃ c front rest, run = word ++ [c] ∧ text = front ++ rest ∧
      extensionAt? word (front.getLast?.or before) rest = some c := by
  induction text generalizing skip before with
  | nil => simp [extensions] at h
  | cons d text ih =>
    have hlater : ∀ skip, run ∈ extensions word skip (some d) text →
        ∃ c front rest, run = word ++ [c] ∧ d :: text = front ++ rest ∧
          extensionAt? word (front.getLast?.or before) rest = some c := by
      intro skip h
      obtain ⟨c, front, rest, hrun, rfl, hc⟩ := ih h
      exact ⟨c, d :: front, rest, hrun, rfl, by rwa [getLast?_cons_or]⟩
    cases skip with
    | succ skip => exact hlater skip h
    | zero =>
      unfold extensions at h
      split at h
      next last hlast =>
        rcases List.mem_cons.mp h with rfl | h
        · exact ⟨last, [], d :: text, rfl, rfl, hlast⟩
        · exact hlater _ h
      next => exact hlater 0 h

theorem extensions_ne_nil {front rest : List Char} {before : Option Char} {c : Char}
    (h : extensionAt? word (front.getLast?.or before) rest = some c) (hrest : rest ≠ []) :
    extensions word 0 before (front ++ rest) ≠ [] := by
  induction front generalizing before with
  | nil =>
    obtain ⟨d, rest, rfl⟩ := List.exists_cons_of_ne_nil hrest
    rw [List.getLast?_nil, Option.none_or] at h
    simp [extensions, h]
  | cons d front ih =>
    rw [getLast?_cons_or] at h
    rw [List.cons_append, extensions]
    split
    · simp
    · exact ih h

/-- What is found are whole occurrences of the word with one more word character. -/
theorem whole_of_mem_extensions (hne : word ≠ []) {text run : List Char}
    (h : run ∈ extensions word 0 none text) :
    ∃ c, run = word ++ [c] ∧ isWideWordChar c = true ∧ Whole run text := by
  obtain ⟨c, front, rest, rfl, rfl, hc⟩ := exists_extensionAt_of_mem_extensions h
  obtain ⟨hwide, back, rfl, hfront, hback⟩ := (extensionAt?_eq_some_iff hne).mp hc
  rw [Option.or_none] at hfront
  refine ⟨c, rfl, hwide, front, back, by simp, ?_, by simpa using hback⟩
  rwa [List.head?_append_of_ne_nil _ hne]

theorem extensions_ne_nil_of_whole (hne : word ≠ []) {text : List Char} {c : Char}
    (hwide : isWideWordChar c = true) (h : Whole (word ++ [c]) text) :
    extensions word 0 none text ≠ [] := by
  obtain ⟨front, back, rfl, hfront, hback⟩ := h
  rw [List.head?_append_of_ne_nil _ hne] at hfront
  rw [List.getLast?_concat] at hback
  rw [List.append_assoc, List.singleton_append]
  apply extensions_ne_nil _ (by simp)
  · exact c
  · rw [Option.or_none]
    exact (extensionAt?_eq_some_iff hne).mpr ⟨hwide, back, rfl, hfront, hback⟩

end Text
end Autocomplete
