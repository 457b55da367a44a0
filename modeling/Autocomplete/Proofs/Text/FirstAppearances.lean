import Autocomplete.Suggestion
import Mathlib.Data.List.Basic
import Mathlib.Data.List.Induction

/-!
# First appearances

A list that is freed of repetitions keeps its items in the order in which they first appear, and one
that is freed of items with the same key keeps the first of each key. Both are said here without the
way in which the repetitions are dropped.
-/

namespace Autocomplete

/-! ### The first item of each key -/

section Keys

variable {α κ : Type} [DecidableEq κ]

/-- The items before which no other item of the list has their key. -/
def firstOfEach (key : α → κ) (xs : List α) : List α :=
  (xs.zipIdx.filter fun p => key p.1 ∉ (xs.take p.2).map key).map Prod.fst

theorem distinctBy_append (key : α → κ) (xs ys : List α) :
    distinctBy key (xs ++ ys) =
      distinctBy key xs ++ (distinctBy key ys).filter (key · ∉ xs.map key) := by
  induction xs with
  | nil => simp
  | cons a rest ih =>
    rw [List.cons_append, distinctBy_cons, distinctBy_cons, ih, List.filter_append,
      List.filter_filter, List.cons_append]
    simp only [ne_eq, List.map_cons, List.mem_cons, not_or, Bool.decide_and]

/-- Whether items are dropped for their keys before or after the repetitions is all the same. -/
theorem distinctBy_filter (key : α → κ) (p : κ → Bool) (xs : List α) :
    distinctBy key (xs.filter fun a => p (key a)) =
      (distinctBy key xs).filter fun a => p (key a) := by
  induction xs with
  | nil => rfl
  | cons a rest ih =>
    rw [distinctBy_cons, List.filter_cons, List.filter_cons, List.filter_filter]
    by_cases h : p (key a) = true
    · rw [if_pos h, if_pos h, distinctBy_cons, ih, List.filter_filter]
      simp only [Bool.and_comm]
    · rw [if_neg h, if_neg h, ih]
      apply List.filter_congr
      intro b _
      -- What has the key of the first item is dropped with it.
      by_cases hkey : key b = key a <;> simp_all

/-- A list that follows another one adds the first items of the keys that the other one lacks. -/
theorem distinctBy_append_filter (key : α → κ) (xs ys : List α) :
    distinctBy key (xs ++ ys) =
      distinctBy key xs ++ distinctBy key (ys.filter (key · ∉ xs.map key)) := by
  have hfilter := distinctBy_filter key (fun k => decide (k ∉ xs.map key)) ys
  rw [distinctBy_append, ← hfilter]

theorem distinctBy_of_nodup {key : α → κ} {xs : List α} (h : (xs.map key).Nodup) :
    distinctBy key xs = xs := by
  induction xs with
  | nil => rfl
  | cons a rest ih =>
    rw [List.map_cons, List.nodup_cons] at h
    rw [distinctBy_cons, ih h.2, List.filter_eq_self.mpr]
    intro b hb
    have hne : key b ≠ key a := fun hkey => h.1 (hkey ▸ List.mem_map_of_mem hb)
    simpa using hne

theorem distinctBy_eq_firstOfEach (key : α → κ) (xs : List α) :
    distinctBy key xs = firstOfEach key xs := by
  induction xs using List.reverseRecOn with
  | nil => rfl
  | append_singleton xs a ih =>
    -- What stands before the items of `xs` is the same with another item behind them.
    have hkept : (xs.zipIdx.filter fun p => key p.1 ∉ ((xs ++ [a]).take p.2).map key) =
        xs.zipIdx.filter fun p => key p.1 ∉ (xs.take p.2).map key := by
      apply List.filter_congr
      rintro ⟨b, i⟩ hb
      have hread : xs[i]? = some b := List.mk_mem_zipIdx_iff_getElem?.mp hb
      have hi : i < xs.length := (List.getElem?_eq_some_iff.mp hread).1
      simp only [List.take_append_of_le_length (Nat.le_of_lt hi)]
    have hlast : [(a, xs.length)].filter (fun p => key p.1 ∉ ((xs ++ [a]).take p.2).map key) =
        ([a].filter (key · ∉ xs.map key)).map fun b => (b, xs.length) := by
      simp only [List.filter_cons, List.filter_nil, List.take_left]
      split <;> rfl
    have hone : distinctBy key [a] = [a] := rfl
    rw [distinctBy_append, ih, hone, firstOfEach, firstOfEach, List.zipIdx_append,
      List.filter_append, hkept, List.map_append, Nat.zero_add, List.zipIdx_singleton, hlast,
      List.map_map]
    exact congrArg (_ ++ ·) (List.map_id _).symm

end Keys

/-! ### Lists without repetitions -/

variable {α κ : Type} [DecidableEq α] [DecidableEq κ]

/-- `kept` holds the items of `all`, each once, in the order of their first appearances. -/
structure FirstAppearances (all kept : List α) : Prop where
  nodup : kept.Nodup
  mem_iff : ∀ a, a ∈ kept ↔ a ∈ all
  order : kept.Pairwise fun a b => all.idxOf a < all.idxOf b

theorem pairwise_idxOf_distinct (xs : List α) :
    (distinct xs).Pairwise fun a b => xs.idxOf a < xs.idxOf b := by
  induction xs with
  | nil => exact .nil
  | cons a rest ih =>
    -- The filter has dropped the first item, so the others are found one place further on.
    have hlater : ∀ b ∈ (distinct rest).filter (· ≠ a),
        (a :: rest).idxOf b = rest.idxOf b + 1 := by
      intro b hb
      have hne : b ≠ a := by simpa using (List.mem_filter.mp hb).2
      exact List.idxOf_cons_ne rest hne.symm
    rw [distinct_cons, List.pairwise_cons]
    constructor
    · intro b hb
      rw [List.idxOf_cons_self, hlater b hb]
      exact Nat.succ_pos _
    · apply (ih.sublist List.filter_sublist).imp_of_mem
      intro b c hb hc hlt
      rw [hlater b hb, hlater c hc]
      exact Nat.succ_lt_succ hlt

theorem firstAppearances_distinct (xs : List α) : FirstAppearances xs (distinct xs) where
  nodup := nodup_distinct xs
  mem_iff _ := mem_distinct
  order := pairwise_idxOf_distinct xs

theorem distinctBy_eq_distinct {key : α → κ} (hkey : Function.Injective key) (xs : List α) :
    distinctBy key xs = distinct xs := by
  induction xs with
  | nil => rfl
  | cons a rest ih =>
    rw [distinctBy_cons, distinct_cons, ih]
    simp only [ne_eq, hkey.eq_iff]

theorem Item.firstAppearances_prune (items : List Item) : FirstAppearances items (prune items) := by
  have hkey : Function.Injective fun i : Item => (i.label, i.insert) := by
    rintro ⟨label, insert⟩ ⟨label', insert'⟩ heq
    simpa using heq
  rw [prune, distinctBy_eq_distinct hkey]
  exact firstAppearances_distinct items

end Autocomplete
