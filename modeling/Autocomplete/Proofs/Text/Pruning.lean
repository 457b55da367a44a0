import Autocomplete.Proofs.Text.FirstAppearances
import Std.Data.HashSet.Lemmas

/-!
# Pruning in one pass, and in parts

A list is pruned in one pass, which notes the key of each item in a hash set and drops the item when
its key is noted already. At each item the set holds the keys of the items before it, so the pass
keeps the first item of each key. A list may as well be pruned part by part and then once more: what
is dropped from a part has an item of its key before it in the same part.
-/

namespace Autocomplete

/-! ### One pass with the keys that were met -/

section Pass

variable {α κ : Type} [DecidableEq κ] [Hashable κ]

/-- Notes a key and tells whether it is new. -/
def note (k : κ) : StateM (Std.HashSet κ) Bool :=
  modifyGet fun met =>
    let (known, met) := met.containsThenInsert k
    (!known, met)

def keepNew (key : α → κ) : List α → StateM (Std.HashSet κ) (List α)
  | [] => return []
  | a :: rest => do
    let new ← note (key a)
    let kept ← keepNew key rest
    return if new then a :: kept else kept

/-- The items that a pass keeps when no key has been met. -/
def keptInOnePass (key : α → κ) (xs : List α) : List α := ((keepNew key xs).run ∅).1

theorem run_note (k : κ) (met : Std.HashSet κ) :
    (note k).run met = (decide (k ∉ met), met.insert k) := by
  have hrun : (note k).run met =
      (!(met.containsThenInsert k).1, (met.containsThenInsert k).2) := rfl
  have hmem : met.contains k = decide (k ∈ met) :=
    Bool.eq_iff_iff.mpr (Std.HashSet.contains_iff_mem.trans decide_eq_true_iff.symm)
  rw [hrun, Std.HashSet.containsThenInsert_fst, Std.HashSet.containsThenInsert_snd, hmem,
    decide_not]

/-- Whatever keys have been met, a pass keeps the first item of each other key, and all keys of the
list have been met after it. -/
theorem run_keepNew (key : α → κ) (xs : List α) (met : Std.HashSet κ) :
    (keepNew key xs).run met =
      ((distinctBy key xs).filter (key · ∉ met), met.insertMany (xs.map key)) := by
  -- The rest of a list is gone through with one key more, so the set stays arbitrary.
  induction xs generalizing met with
  | nil => rfl
  | cons a rest ih =>
    have hrun : (keepNew key (a :: rest)).run met =
        (if decide (key a ∉ met) then a :: ((keepNew key rest).run (met.insert (key a))).1
          else ((keepNew key rest).run (met.insert (key a))).1,
        ((keepNew key rest).run (met.insert (key a))).2) := by
      rw [keepNew, StateT.run_bind, run_note]
      rfl
    -- After the first item, the keys to be dropped are its own and those met before.
    have hlater : (distinctBy key rest).filter (key · ∉ met.insert (key a)) =
        ((distinctBy key rest).filter (key · ≠ key a)).filter (key · ∉ met) := by
      rw [List.filter_filter]
      apply List.filter_congr
      intro b _
      have hnew : key b ∉ met.insert (key a) ↔ key b ∉ met ∧ key b ≠ key a := by
        rw [Std.HashSet.mem_insert, beq_iff_eq, not_or, and_comm, ne_comm]
      simp only [hnew, Bool.decide_and]
    rw [hrun, ih, hlater, distinctBy_cons, List.filter_cons, List.map_cons,
      Std.HashSet.insertMany_cons]

theorem keptInOnePass_eq (key : α → κ) (xs : List α) :
    keptInOnePass key xs = distinctBy key xs := by
  rw [keptInOnePass, run_keepNew]
  exact List.filter_eq_self.mpr fun a _ => by simp

end Pass

/-! ### Pruning part by part -/

section Parts

variable {α β κ : Type} [DecidableEq κ]

theorem distinctBy_distinctBy (key : α → κ) (xs : List α) :
    distinctBy key (distinctBy key xs) = distinctBy key xs :=
  distinctBy_of_nodup (nodup_map_distinctBy key xs)

/-- What the second part drops depends on the keys of the first one, and pruning keeps these. -/
theorem distinctBy_append_distinctBy (key : α → κ) (xs ys : List α) :
    distinctBy key (distinctBy key xs ++ distinctBy key ys) = distinctBy key (xs ++ ys) := by
  simp only [distinctBy_append, distinctBy_distinctBy, mem_map_distinctBy]

theorem distinctBy_flatMap_congr {key : α → κ} {parts : List β} {f g : β → List α}
    (h : ∀ part ∈ parts, distinctBy key (f part) = distinctBy key (g part)) :
    distinctBy key (parts.flatMap f) = distinctBy key (parts.flatMap g) := by
  induction parts with
  | nil => rfl
  | cons part rest ih =>
    have hrest := ih fun other hother => h other (List.mem_cons_of_mem part hother)
    calc distinctBy key ((part :: rest).flatMap f)
        = distinctBy key (distinctBy key (f part) ++ distinctBy key (rest.flatMap f)) :=
          (distinctBy_append_distinctBy key _ _).symm
      _ = distinctBy key (distinctBy key (g part) ++ distinctBy key (rest.flatMap g)) := by
          rw [h part List.mem_cons_self, hrest]
      _ = distinctBy key ((part :: rest).flatMap g) := distinctBy_append_distinctBy key _ _

theorem distinct_append [DecidableEq α] (xs ys : List α) :
    distinct (xs ++ ys) = distinct xs ++ distinct (ys.filter (· ∉ xs)) := by
  have happend := distinctBy_append_filter id xs ys
  rw [List.map_id] at happend
  exact happend

theorem flatMap_filter_of_nil {f : α → List β} {p : α → Bool} (h : ∀ a, p a = false → f a = [])
    (xs : List α) : (xs.filter p).flatMap f = xs.flatMap f := by
  induction xs with
  | nil => rfl
  | cons a rest ih =>
    cases hp : p a with
    | true => rw [List.filter_cons_of_pos hp, List.flatMap_cons, List.flatMap_cons, ih]
    | false =>
      rw [List.filter_cons_of_neg (by simp [hp]), List.flatMap_cons, h a hp, List.nil_append, ih]

theorem distinct_flatMap_distinct [DecidableEq α] (f : α → List κ) (xs : List α) :
    distinct ((distinct xs).flatMap f) = distinct (xs.flatMap f) := by
  induction xs with
  | nil => rfl
  | cons a rest ih =>
    -- Nothing that the first item is replaced by is kept from a repetition of it.
    have hrest : (((distinct rest).filter (· ≠ a)).flatMap f).filter (· ∉ f a) =
        ((distinct rest).flatMap f).filter (· ∉ f a) := by
      rw [List.filter_flatMap, List.filter_flatMap]
      apply flatMap_filter_of_nil
      intro b hb
      obtain rfl : b = a := by simpa using hb
      exact List.filter_eq_nil_iff.mpr fun c hc => by simpa using hc
    have hfilter : ∀ ys : List κ,
        distinct (ys.filter (· ∉ f a)) = (distinct ys).filter (· ∉ f a) :=
      distinctBy_filter id fun b => decide (b ∉ f a)
    rw [distinct_cons, List.flatMap_cons, List.flatMap_cons, distinct_append, distinct_append,
      hrest, hfilter, ih, hfilter]

end Parts

/-- Pruning keeps, in their order, the items before which no other item has their key, as one pass
does that remembers the keys it has met. So no two items kept have the same key and no key is lost,
pruning once more drops nothing, and whether the parts of a list are pruned beforehand is all the
same. -/
theorem pruning_keeps_first_of_each_key {α κ : Type} [DecidableEq κ] [Hashable κ] (key : α → κ)
    (xs ys : List α) :
    keptInOnePass key xs = distinctBy key xs ∧
    distinctBy key xs = firstOfEach key xs ∧
    distinctBy key (distinctBy key xs) = distinctBy key xs ∧
    ((distinctBy key xs).map key).Nodup ∧
    (∀ k, k ∈ (distinctBy key xs).map key ↔ k ∈ xs.map key) ∧
    distinctBy key (xs ++ ys) = distinctBy key (distinctBy key xs ++ distinctBy key ys) ∧
    ∀ parts : List (List α),
      distinctBy key parts.flatten = distinctBy key (parts.map (distinctBy key)).flatten := by
  refine ⟨keptInOnePass_eq key xs, distinctBy_eq_firstOfEach key xs, distinctBy_distinctBy key xs,
    nodup_map_distinctBy key xs, fun k => mem_map_distinctBy,
    (distinctBy_append_distinctBy key xs ys).symm, ?_⟩
  intro parts
  have hparts : distinctBy key (parts.flatMap id) =
      distinctBy key (parts.flatMap fun part => distinctBy key part) :=
    distinctBy_flatMap_congr fun part _ => (distinctBy_distinctBy key part).symm
  rw [List.flatMap_id] at hparts
  exact hparts

end Autocomplete
