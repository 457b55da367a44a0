import Autocomplete.Text.Casing
import Mathlib.Data.List.Basic

/-!
# Lowercase text and what is added to it

Text that is added to the end leaves the lowercase form before it as it is, with one exception: a
capital sigma that ended its word may stand in the middle of it afterwards. So the lowercase form of
a text is a front part of the lowercase form of each text that it starts, apart from this case.
-/

namespace Autocomplete
namespace Text

/-- A capital sigma that ends its word in `start` does not end it any more when `rest` follows. -/
def ContinuesSigma (start rest : List Char) : Prop :=
  ∃ front back, start = front ++ 'Σ' :: back ∧ endsWord front.reverse back = true ∧
    endsWord front.reverse (back ++ rest) = false

def lowercaseIn (before : List Char) (c : Char) (after : List Char) : List Char :=
  if c = 'Σ' then (if endsWord before after then ['ς'] else ['σ']) else lowerChar c

/-- The lowercase form of a part of a text in its context. -/
def lowercaseBetween : (before : List Char) → List Char → (after : List Char) → List Char
  | _, [], _ => []
  | before, c :: rest, after =>
    lowercaseIn before c (rest ++ after) ++ lowercaseBetween (c :: before) rest after

theorem lowercaseAfter_cons (before : List Char) (c : Char) (rest : List Char) :
    lowercaseAfter before (c :: rest) =
      lowercaseIn before c rest ++ lowercaseAfter (c :: before) rest := rfl

theorem lowercaseBetween_cons (before : List Char) (c : Char) (rest after : List Char) :
    lowercaseBetween before (c :: rest) after =
      lowercaseIn before c (rest ++ after) ++ lowercaseBetween (c :: before) rest after := rfl

theorem lowercaseAfter_append (before start rest : List Char) :
    lowercaseAfter before (start ++ rest) =
      lowercaseBetween before start rest ++ lowercaseAfter (start.reverse ++ before) rest := by
  induction start generalizing before with
  | nil => rfl
  | cons c start ih =>
    rw [List.cons_append, lowercaseAfter_cons, ih, lowercaseBetween_cons, List.append_assoc,
      List.reverse_cons, List.append_assoc, List.singleton_append]

theorem lowercaseBetween_nil (before text : List Char) :
    lowercaseBetween before text [] = lowercaseAfter before text := by
  have h := lowercaseAfter_append before text []
  rw [List.append_nil] at h
  rw [h, lowercaseAfter, List.append_nil]

theorem length_lowercaseIn (before : List Char) (c : Char) (after after' : List Char) :
    (lowercaseIn before c after).length = (lowercaseIn before c after').length := by
  unfold lowercaseIn
  split
  · split <;> split <;> rfl
  · rfl

theorem length_lowercaseBetween (before text after after' : List Char) :
    (lowercaseBetween before text after).length =
      (lowercaseBetween before text after').length := by
  induction text generalizing before with
  | nil => rfl
  | cons c rest ih =>
    rw [lowercaseBetween_cons, lowercaseBetween_cons, List.length_append, List.length_append,
      length_lowercaseIn before c (rest ++ after) (rest ++ after'), ih]

/-! ### Where the context makes a difference -/

theorem reachesCased_append {back : List Char} (h : reachesCased back = true) (rest : List Char) :
    reachesCased (back ++ rest) = true := by
  induction back with
  | nil => simp [reachesCased] at h
  | cons c back ih =>
    by_cases hc : isCaseIgnorable c = true
    · simp only [reachesCased, List.cons_append, List.dropWhile_cons_of_pos hc] at h ih ⊢
      exact ih h
    · simp only [reachesCased, List.cons_append, List.dropWhile_cons_of_neg hc] at h ⊢
      exact h

/-- A sigma in the middle of its word stays there, whatever is added. -/
theorem endsWord_append_of_not {before back : List Char} (h : endsWord before back = false)
    (rest : List Char) : endsWord before (back ++ rest) = false := by
  unfold endsWord at h ⊢
  cases hback : reachesCased back with
  | false => simp_all
  | true => simp [reachesCased_append hback rest]

theorem lowercaseIn_eq_iff {before : List Char} {c : Char} {after after' : List Char} :
    lowercaseIn before c after = lowercaseIn before c after' ↔
      (c = 'Σ' → endsWord before after = endsWord before after') := by
  unfold lowercaseIn
  by_cases hc : c = 'Σ'
  · cases endsWord before after <;> cases endsWord before after' <;> simp [hc]
  · simp [hc]

theorem lowercaseBetween_eq_iff {before text after after' : List Char} :
    lowercaseBetween before text after = lowercaseBetween before text after' ↔
      ∀ front back, text = front ++ 'Σ' :: back →
        endsWord (front.reverse ++ before) (back ++ after) =
          endsWord (front.reverse ++ before) (back ++ after') := by
  induction text generalizing before with
  | nil => simp [lowercaseBetween]
  | cons c rest ih =>
    have hlength := length_lowercaseIn before c (rest ++ after) (rest ++ after')
    rw [lowercaseBetween_cons, lowercaseBetween_cons,
      List.append_eq_append_iff_of_size_eq_left hlength, lowercaseIn_eq_iff, ih]
    constructor
    · rintro ⟨hfirst, hrest⟩ front back heq
      cases front with
      | nil =>
        obtain ⟨rfl, rfl⟩ := List.cons.inj heq
        exact hfirst rfl
      | cons d front =>
        obtain ⟨rfl, rfl⟩ := List.cons.inj heq
        simpa using hrest front back rfl
    · intro h
      refine ⟨?_, ?_⟩
      · rintro rfl
        exact h [] rest rfl
      · rintro front back rfl
        simpa using h (c :: front) back rfl

/-- What is added changes the lowercase form before it just where a capital sigma goes on. -/
theorem lowercaseBetween_eq_lowercaseAfter_iff {start rest : List Char} :
    lowercaseBetween [] start rest = lowercaseAfter [] start ↔ ¬ContinuesSigma start rest := by
  rw [← lowercaseBetween_nil, lowercaseBetween_eq_iff]
  simp only [List.append_nil, ContinuesSigma, not_exists, not_and, Bool.not_eq_false]
  constructor
  · intro h front back heq hends
    rw [h front back heq, hends]
  · intro h front back heq
    cases hends : endsWord front.reverse back with
    | true => exact h front back heq hends
    | false => exact endsWord_append_of_not hends rest

/-! ### Starting with a text, whatever the case -/

variable (start rest : String)

theorem toList_lowercase (s : String) : (lowercase s).toList = lowercaseAfter [] s.toList :=
  String.toList_ofList

theorem toList_lowercase_append :
    (lowercase (start ++ rest)).toList =
      lowercaseBetween [] start.toList rest.toList ++
        lowercaseAfter start.toList.reverse rest.toList := by
  rw [toList_lowercase, String.toList_append, lowercaseAfter_append, List.append_nil]

theorem length_lowercaseBetween_eq :
    (lowercaseBetween [] start.toList rest.toList).length = (lowercase start).toList.length := by
  rw [toList_lowercase, ← lowercaseBetween_nil, length_lowercaseBetween]

variable {start rest}

theorem startsWithIgnoringCase_iff_of_append {s : String}
    (h : startsWithIgnoringCase (start ++ rest) s = true) :
    startsWithIgnoringCase start s = true ↔ ¬ContinuesSigma start.toList rest.toList := by
  rw [startsWithIgnoringCase, List.isPrefixOf_iff_prefix] at h ⊢
  rw [toList_lowercase_append] at h
  have hfront := (List.prefix_append _ _).trans h
  have hlength := length_lowercaseBetween_eq start rest
  rw [← lowercaseBetween_eq_lowercaseAfter_iff, ← toList_lowercase]
  constructor
  · intro hstart
    have hle := List.prefix_of_prefix_length_le hfront hstart (Nat.le_of_eq hlength)
    exact hle.eq_of_length hlength
  · intro heq
    rwa [heq] at hfront

end Text
end Autocomplete
