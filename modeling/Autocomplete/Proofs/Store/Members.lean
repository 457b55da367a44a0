import Autocomplete.Proofs.Store.Duplicates
import Autocomplete.Session
import Mathlib.Data.List.Induction

/-!
# Members by owner

Grouping pairs of owner and member gives every owner the members it is paired with, in the order of
the pairs, and no owner without any. What a session offers of the only document that it knows are
the groups of that document, with the owners in ascending order.
-/

namespace Autocomplete

def membersOf (pairs : List (String × String)) (owner : String) : List String :=
  (pairs.filter (·.1 = owner)).map (·.2)

namespace MemberMap

theorem ofPairs_append (pairs : List (String × String)) (owner member : String) :
    ofPairs (pairs ++ [(owner, member)]) = (ofPairs pairs).push owner member := by
  simp [ofPairs]

theorem membersOf_append (pairs : List (String × String)) (owner member name : String) :
    membersOf (pairs ++ [(owner, member)]) name =
      membersOf pairs name ++ (if owner = name then [member] else []) := by
  by_cases h : owner = name <;> simp [membersOf, h]

/-- Every owner has the members that it is paired with. -/
theorem getElem?_ofPairs (pairs : List (String × String)) (name : String) :
    (ofPairs pairs)[name]? =
      if membersOf pairs name = [] then none else some (membersOf pairs name) := by
  induction pairs using List.reverseRecOn with
  | nil => simp [ofPairs, membersOf]
  | append_singleton pairs pair ih =>
    obtain ⟨owner, member⟩ := pair
    rw [ofPairs_append, push, membersOf_append, Std.ExtTreeMap.getElem?_insert,
      Std.ExtTreeMap.getD_eq_getD_getElem?]
    by_cases h : owner = name
    · subst h
      rw [if_pos Std.ReflCmp.compare_self, if_pos rfl, if_neg (by simp), ih]
      by_cases hnone : membersOf pairs owner = []
      · rw [if_pos hnone, hnone, Option.getD_none]
      · rw [if_neg hnone, Option.getD_some]
    · rw [if_neg (by simpa using h), if_neg h, List.append_nil, ih]

theorem mem_keys_ofPairs {pairs : List (String × String)} {name : String} :
    name ∈ (ofPairs pairs).keys ↔ membersOf pairs name ≠ [] := by
  rw [Std.ExtTreeMap.mem_keys, ← Std.ExtTreeMap.isSome_getElem?_iff_mem, getElem?_ofPairs]
  split <;> simp_all

theorem toList_ofPairs (pairs : List (String × String)) :
    (ofPairs pairs).toList =
      (ofPairs pairs).keys.map fun name => (name, membersOf pairs name) := by
  have hentry : ∀ entry ∈ (ofPairs pairs).toList, (entry.1, membersOf pairs entry.1) = entry := by
    rintro ⟨name, members⟩ h
    rw [Std.ExtTreeMap.mem_toList_iff_getElem?_eq_some, getElem?_ofPairs] at h
    split at h <;> simp_all
  rw [← Std.ExtTreeMap.map_fst_toList_eq_keys, List.map_map]
  exact ((List.map_congr_left hentry).trans (List.map_id _)).symm

theorem pairwise_keys (m : MemberMap) : m.keys.Pairwise (· < ·) :=
  m.ordered_keys.imp compareOfLessAndEq_eq_lt.mp

end MemberMap

theorem Findings.enumerationItems_of_pairs {f : Findings} {pairs : List (String × String)}
    (h : f.cases = some (.ofPairs pairs)) :
    f.enumerationItems = (MemberMap.ofPairs pairs).keys.flatMap fun owner =>
      (membersOf pairs owner).map fun case => ⟨owner ++ "." ++ case, case⟩ := by
  rw [enumerationItems, h, Option.getD_some, MemberMap.toList_ofPairs, List.flatMap_map]

namespace Session

/-- The store holds the findings of one document when no other was analysed before. -/
theorem enumerationItems_analyze_of_only {s : Session} {d : Document} (language : Language)
    (honly : ∀ id, id ∈ s.store → id = d.id) :
    (s.analyze d language).enumerationItems =
      (Findings.ofSource s.settings d.text language).enumerationItems := by
  have hstore : (s.analyze d language).store.toList =
      [(d.id, .ofSource s.settings d.text language)] := by
    have hmem : ∀ entry, entry ∈ (s.analyze d language).store.toList ↔
        entry ∈ [(d.id, Findings.ofSource s.settings d.text language)] := by
      rintro ⟨id, f⟩
      rw [Std.ExtTreeMap.mem_toList_iff_getElem?_eq_some, List.mem_singleton, Prod.mk.injEq,
        analyze, Store.put, Std.ExtTreeMap.getElem?_insert]
      by_cases hid : id = d.id
      · simp [hid, eq_comm]
      · have hnone : s.store[id]? = none :=
          Std.ExtTreeMap.getElem?_eq_none fun h => hid (honly id h)
        simp [hid, hnone, Ne.symm hid]
    have hnodup : (s.analyze d language).store.toList.Nodup := by
      apply (s.analyze d language).store.distinct_keys_toList.imp
      rintro entry entry' hne rfl
      exact hne Std.ReflCmp.compare_self
    apply List.perm_singleton.mp
    exact (List.perm_ext_iff_of_nodup hnodup (List.nodup_singleton _)).mpr hmem
  rw [enumerationItems, Store.enumerationItems_eq, hstore, List.flatMap_singleton]

end Session

end Autocomplete
