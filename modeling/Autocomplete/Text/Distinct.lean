/-!
# The first item of each key

`distinctBy key` keeps an item when no earlier item has its key, in the given order.
-/

namespace Autocomplete

variable {α κ : Type} [DecidableEq κ]

/-- Keeps the first item of each key. -/
def distinctBy (key : α → κ) : List α → List α
  | [] => []
  | a :: rest => a :: (distinctBy key rest).filter (key · ≠ key a)

def distinct [DecidableEq α] : List α → List α := distinctBy id

@[simp] theorem distinctBy_nil (key : α → κ) : distinctBy key [] = [] := rfl

theorem distinctBy_cons (key : α → κ) (a : α) (rest : List α) :
    distinctBy key (a :: rest) = a :: (distinctBy key rest).filter (key · ≠ key a) := rfl

theorem distinct_cons [DecidableEq α] (a : α) (rest : List α) :
    distinct (a :: rest) = a :: (distinct rest).filter (· ≠ a) := rfl

theorem distinctBy_sublist (key : α → κ) (xs : List α) : (distinctBy key xs).Sublist xs := by
  induction xs with
  | nil => exact .slnil
  | cons a rest ih => exact (List.filter_sublist.trans ih).cons_cons a

theorem nodup_map_distinctBy (key : α → κ) (xs : List α) : ((distinctBy key xs).map key).Nodup := by
  induction xs with
  | nil => exact .nil
  | cons a rest ih =>
    rw [distinctBy_cons, List.map_cons, List.nodup_cons]
    constructor
    · -- The filter has dropped whatever has the key of the first item.
      intro h
      obtain ⟨b, hb, hkey⟩ := List.mem_map.mp h
      simp [hkey] at hb
    · exact List.Pairwise.sublist (List.filter_sublist.map key) ih

theorem mem_map_distinctBy {key : α → κ} {xs : List α} {k : κ} :
    k ∈ (distinctBy key xs).map key ↔ k ∈ xs.map key := by
  induction xs with
  | nil => rfl
  | cons a rest ih =>
    rw [distinctBy_cons, List.map_cons, List.map_cons, List.mem_cons, List.mem_cons, ← ih]
    by_cases h : k = key a
    · simp [h]
    · simp only [h, false_or, List.mem_map, List.mem_filter, decide_eq_true_eq]
      constructor
      · rintro ⟨b, ⟨hb, -⟩, hkey⟩
        exact ⟨b, hb, hkey⟩
      · rintro ⟨b, hb, rfl⟩
        exact ⟨b, ⟨hb, h⟩, rfl⟩

theorem mem_distinct [DecidableEq α] {xs : List α} {a : α} : a ∈ distinct xs ↔ a ∈ xs := by
  have h : a ∈ (distinctBy id xs).map id ↔ a ∈ xs.map id := mem_map_distinctBy
  rwa [List.map_id, List.map_id] at h

/-- What is kept stands before whatever else has its key. -/
theorem eq_or_before_of_mem_distinctBy {key : α → κ} {before : α → α → Prop} {xs : List α} {a b : α}
    (hxs : xs.Pairwise before) (ha : a ∈ distinctBy key xs) (hb : b ∈ xs) (hkey : key b = key a) :
    b = a ∨ before a b := by
  induction hxs with
  | nil => simp at hb
  | @cons c rest hc _ ih =>
    rw [distinctBy_cons, List.mem_cons] at ha
    rcases ha with rfl | ha
    · rcases List.mem_cons.mp hb with rfl | hb
      · exact .inl rfl
      · exact .inr (hc b hb)
    · obtain ⟨ha, hne⟩ := List.mem_filter.mp ha
      rcases List.mem_cons.mp hb with rfl | hb
      · simp [hkey] at hne
      · exact ih ha hb

theorem distinct_map (key : α → κ) (xs : List α) :
    distinct (xs.map key) = (distinctBy key xs).map key := by
  induction xs with
  | nil => rfl
  | cons a rest ih =>
    have hfilter : ((distinctBy key rest).map key).filter (· ≠ key a) =
        ((distinctBy key rest).filter (key · ≠ key a)).map key := List.filter_map
    rw [List.map_cons, distinctBy_cons, List.map_cons, ← hfilter, ← ih, distinct_cons]

theorem nodup_distinct [DecidableEq α] (xs : List α) : (distinct xs).Nodup := by
  have h := nodup_map_distinctBy id xs
  rwa [List.map_id] at h

end Autocomplete
