/-!
# Sorted tables of code points

A character property is stored as an ascending list of runs. A run covers every code point from its
first to its last member at a fixed stride, so that alternating upper and lower case pairs take one
run for each case. A lookup stops at the first run that ends at or after the code point.
-/

namespace Autocomplete
namespace Text

/-- The code points `first`, `first + stride`, … up to `last`. -/
structure CodeRun where
  first : Nat
  last : Nat
  stride : Nat
  deriving DecidableEq, Repr

namespace CodeRun

def contains (r : CodeRun) (n : Nat) : Bool :=
  r.first ≤ n && n ≤ r.last && (n - r.first) % r.stride == 0

end CodeRun

/-- A run of code points whose images start at `image` and keep their distances. -/
structure CodeShift where
  source : CodeRun
  image : Nat
  deriving DecidableEq, Repr

def covers : List CodeRun → Nat → Bool
  | [], _ => false
  | r :: rest, n =>
    if n < r.first then false else if n ≤ r.last then r.contains n else covers rest n

/-- Whether the runs begin at `bound` or later and follow one another. -/
def ascendingFrom : (bound : Nat) → List CodeRun → Bool
  | _, [] => true
  | bound, r :: rest =>
    bound ≤ r.first && r.first ≤ r.last && ascendingFrom (r.last + 1) rest

/-- Whether each of some ascending runs is a run of the list, or lies in one without gaps. -/
def coversAll : (table runs : List CodeRun) → Bool
  | [], runs => runs.isEmpty
  | s :: rest, runs =>
    coversAll rest <| runs.dropWhile fun r =>
      s == r || (s.first ≤ r.first && r.last ≤ s.last && s.stride == 1)

def shift? : List CodeShift → Nat → Option Nat
  | [], _ => none
  | s :: rest, n =>
    if n < s.source.first then none
    else if n ≤ s.source.last then
      if s.source.contains n then some (s.image + (n - s.source.first)) else none
    else shift? rest n

theorem exists_contains_of_covers {table : List CodeRun} {n : Nat} (h : covers table n = true) :
    ∃ r ∈ table, r.contains n = true := by
  induction table with
  | nil => simp [covers] at h
  | cons r rest ih =>
    unfold covers at h
    split at h
    · simp at h
    · split at h
      · exact ⟨r, by simp, h⟩
      · obtain ⟨s, hs, hn⟩ := ih h
        exact ⟨s, by simp [hs], hn⟩

theorem le_first_of_mem {table : List CodeRun} {bound : Nat}
    (h : ascendingFrom bound table = true) {r : CodeRun} (hr : r ∈ table) : bound ≤ r.first := by
  induction table generalizing bound with
  | nil => simp at hr
  | cons s rest ih =>
    simp only [ascendingFrom, Bool.and_eq_true, decide_eq_true_eq] at h
    rcases List.mem_cons.mp hr with rfl | hr
    · exact h.1.1
    · have hlater := ih h.2 hr
      omega

/-- In an ascending list no run hides a later one. -/
theorem covers_of_contains {table : List CodeRun} {bound : Nat}
    (h : ascendingFrom bound table = true) {r : CodeRun} (hr : r ∈ table) {n : Nat}
    (hn : r.contains n = true) : covers table n = true := by
  have hrange : r.first ≤ n ∧ n ≤ r.last := by
    simp only [CodeRun.contains, Bool.and_eq_true, decide_eq_true_eq] at hn
    exact hn.1
  induction table generalizing bound with
  | nil => simp at hr
  | cons s rest ih =>
    simp only [ascendingFrom, Bool.and_eq_true, decide_eq_true_eq] at h
    rw [covers]
    rcases List.mem_cons.mp hr with rfl | hr
    · rw [if_neg (by omega), if_pos hrange.2, hn]
    · have hlater := le_first_of_mem h.2 hr
      rw [if_neg (by omega), if_neg (by omega), ih h.2 hr]

theorem exists_contains_of_coversAll {table runs : List CodeRun}
    (h : coversAll table runs = true) {r : CodeRun} (hr : r ∈ runs) {n : Nat}
    (hn : r.contains n = true) : ∃ s ∈ table, s.contains n = true := by
  induction table generalizing runs with
  | nil =>
    obtain rfl : runs = [] := by simpa [coversAll] using h
    simp at hr
  | cons s rest ih =>
    rw [coversAll] at h
    generalize hwithin : (fun r : CodeRun =>
      s == r || (s.first ≤ r.first && r.last ≤ s.last && s.stride == 1)) = within at h
    rw [← List.takeWhile_append_dropWhile (p := within) (l := runs), List.mem_append] at hr
    rcases hr with hr | hr
    · refine ⟨s, List.mem_cons_self, ?_⟩
      have hs : within r = true := List.all_eq_true.mp List.all_takeWhile r hr
      rw [← hwithin, Bool.or_eq_true, beq_iff_eq] at hs
      rcases hs with rfl | hs
      · exact hn
      · simp only [CodeRun.contains, Bool.and_eq_true, decide_eq_true_eq, beq_iff_eq] at hn hs ⊢
        rw [hs.2, Nat.mod_one]
        omega
    · obtain ⟨t, ht, hcontains⟩ := ih h hr
      exact ⟨t, List.mem_cons_of_mem s ht, hcontains⟩

theorem exists_of_shift?_eq_some {table : List CodeShift} {n image : Nat}
    (h : shift? table n = some image) :
    ∃ s ∈ table, s.source.contains n = true ∧ image = s.image + (n - s.source.first) := by
  induction table with
  | nil => simp [shift?] at h
  | cons s rest ih =>
    unfold shift? at h
    split at h
    · simp at h
    · split at h
      · split at h
        · exact ⟨s, by simp, ‹_›, (Option.some.inj h).symm⟩
        · simp at h
      · obtain ⟨t, ht, himage⟩ := ih h
        exact ⟨t, by simp [ht], himage⟩

end Text
end Autocomplete
