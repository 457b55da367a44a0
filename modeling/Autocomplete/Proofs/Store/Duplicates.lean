import Autocomplete.Store
import Autocomplete.Words.Complete
import Mathlib.Data.List.Flatten
import Mathlib.Data.List.Nodup
import Mathlib.Data.List.Pairwise

/-!
# Lists of items without repetition

Almost every list that is offered has passed through a pruning, of its items or of the names that
its items are made of, and so repeats nothing. The list of enumeration cases has not: an item comes
twice as soon as an enumeration lists a case twice, or two documents declare the same case of
enumerations of the same name.
-/

namespace Autocomplete

section Maps

variable {κ ν β : Type} {cmp : κ → κ → Ordering} [Std.TransCmp cmp]

theorem values_eq_map_toList (m : Std.ExtTreeMap κ ν cmp) : m.values = m.toList.map (·.2) := by
  have hfold : m.values = m.foldr (fun _ value values => value :: values) [] := by
    obtain ⟨⟨m⟩⟩ := m
    induction m using Quotient.ind
    rfl
  rw [hfold, Std.ExtTreeMap.foldr_eq_foldr_toList]
  induction m.toList with
  | nil => rfl
  | cons entry rest ih => rw [List.foldr_cons, List.map_cons, ih]

/-- A list that is made entry by entry repeats nothing when no entry does and no two entries share
anything. -/
theorem nodup_flatMap_toList_iff [Std.LawfulEqCmp cmp] (m : Std.ExtTreeMap κ ν cmp)
    (f : κ × ν → List β) :
    (m.toList.flatMap f).Nodup ↔
      (∀ key value, m[key]? = some value → (f (key, value)).Nodup) ∧
      ∀ key key' value value', key ≠ key' → m[key]? = some value → m[key']? = some value' →
        (f (key, value)).Disjoint (f (key', value')) := by
  have hkeys : m.toList.Pairwise fun a b => a.1 ≠ b.1 := by
    apply m.distinct_keys_toList.imp
    intro a b hne heq
    exact hne (Std.LawfulEqCmp.compare_eq_iff_eq.mpr heq)
  rw [List.nodup_flatMap]
  constructor
  · rintro ⟨hentries, hpairs⟩
    refine ⟨?_, ?_⟩
    · intro key value h
      exact hentries _ (Std.ExtTreeMap.mem_toList_iff_getElem?_eq_some.mpr h)
    · intro key key' value value' hne h h'
      have : Std.Symm (Function.onFun List.Disjoint f) := ⟨fun _ _ h => List.disjoint_symm h⟩
      exact hpairs.forall (Std.ExtTreeMap.mem_toList_iff_getElem?_eq_some.mpr h)
        (Std.ExtTreeMap.mem_toList_iff_getElem?_eq_some.mpr h')
        fun heq => hne (Prod.ext_iff.mp heq).1
  · rintro ⟨hentries, hpairs⟩
    refine ⟨?_, ?_⟩
    · rintro ⟨key, value⟩ h
      exact hentries key value (Std.ExtTreeMap.mem_toList_iff_getElem?_eq_some.mp h)
    · apply hkeys.imp_of_mem
      rintro ⟨key, value⟩ ⟨key', value'⟩ h h' hne
      exact hpairs key key' value value' hne (Std.ExtTreeMap.mem_toList_iff_getElem?_eq_some.mp h)
        (Std.ExtTreeMap.mem_toList_iff_getElem?_eq_some.mp h')

end Maps

namespace Item

theorem nodup_prune (items : List Item) : (prune items).Nodup :=
  (nodup_map_distinctBy _ items).of_map

end Item

namespace Findings

def casesOf (f : Findings) (name : String) : List String := (f.cases.getD ∅).getD name []

/-- The items that the enumerations of one document make. -/
def enumerationItems (f : Findings) : List Item :=
  (f.cases.getD ∅).toList.flatMap fun (name, cases) =>
    cases.map fun case => ⟨name ++ "." ++ case, case⟩

theorem casesOf_eq_of_getElem? {f : Findings} {name : String} {cases : List String}
    (h : (f.cases.getD ∅)[name]? = some cases) : f.casesOf name = cases := by
  rw [casesOf, Std.ExtTreeMap.getD_eq_getD_getElem?, h, Option.getD_some]

theorem mem_enumerationItems {f : Findings} {item : Item} :
    item ∈ f.enumerationItems ↔
      ∃ name case, case ∈ f.casesOf name ∧ item = ⟨name ++ "." ++ case, case⟩ := by
  unfold enumerationItems
  simp only [List.mem_flatMap, List.mem_map, Prod.exists,
    Std.ExtTreeMap.mem_toList_iff_getElem?_eq_some]
  constructor
  · rintro ⟨name, cases, hcases, case, hcase, rfl⟩
    exact ⟨name, case, by rwa [casesOf_eq_of_getElem? hcases], rfl⟩
  · rintro ⟨name, case, hcase, rfl⟩
    cases hcases : (f.cases.getD ∅)[name]? with
    | none => simp [casesOf, Std.ExtTreeMap.getD_eq_getD_getElem?, hcases] at hcase
    | some cases =>
      rw [casesOf_eq_of_getElem? hcases] at hcase
      exact ⟨name, cases, hcases, case, hcase, rfl⟩

end Findings

theorem enumerationItem_inj {name name' case case' : String} :
    (⟨name ++ "." ++ case, case⟩ : Item) = ⟨name' ++ "." ++ case', case'⟩ ↔
      name = name' ∧ case = case' := by
  rw [Item.mk.injEq]
  constructor
  · rintro ⟨hlabel, rfl⟩
    rw [String.append_left_inj, String.append_left_inj] at hlabel
    exact ⟨hlabel, rfl⟩
  · rintro ⟨rfl, rfl⟩
    exact ⟨rfl, rfl⟩

theorem Findings.nodup_enumerationItems_iff (f : Findings) :
    f.enumerationItems.Nodup ↔ ∀ name, (f.casesOf name).Nodup := by
  have hitems : ∀ (name : String) (cases : List String),
      (cases.map fun case => (⟨name ++ "." ++ case, case⟩ : Item)).Nodup ↔ cases.Nodup := by
    intro name cases
    exact List.nodup_map_iff fun _ _ heq => (enumerationItem_inj.mp heq).2
  unfold enumerationItems
  rw [nodup_flatMap_toList_iff]
  simp only [hitems]
  constructor
  · rintro ⟨hcases, -⟩ name
    cases h : (f.cases.getD ∅)[name]? with
    | none => simp [casesOf, Std.ExtTreeMap.getD_eq_getD_getElem?, h]
    | some cases =>
      rw [casesOf_eq_of_getElem? h]
      exact hcases name cases h
  · intro hcases
    refine ⟨?_, ?_⟩
    · intro name cases h
      rw [← casesOf_eq_of_getElem? h]
      exact hcases name
    · -- Enumerations of different names share no item, whatever their cases.
      intro name name' cases cases' hne _ _ item hitem hitem'
      obtain ⟨case, -, rfl⟩ := List.mem_map.mp hitem
      obtain ⟨case', -, heq⟩ := List.mem_map.mp hitem'
      exact hne (enumerationItem_inj.mp heq).1.symm

namespace Store

/-- The cases that a document declares of the enumerations called `name`. -/
def casesOf (s : Store) (id : Nat) (name : String) : List String := (s.getD id {}).casesOf name

theorem casesOf_eq_of_getElem? {s : Store} {id : Nat} {f : Findings} (h : s[id]? = some f)
    (name : String) : s.casesOf id name = f.casesOf name := by
  rw [casesOf, Std.ExtTreeMap.getD_eq_getD_getElem?, h, Option.getD_some]

theorem exists_of_mem_casesOf {s : Store} {id : Nat} {name case : String}
    (h : case ∈ s.casesOf id name) : ∃ f, s[id]? = some f ∧ case ∈ f.casesOf name := by
  cases hf : s[id]? with
  | none =>
    simp [casesOf, Std.ExtTreeMap.getD_eq_getD_getElem?, hf, Findings.casesOf] at h
  | some f => exact ⟨f, rfl, by rwa [casesOf_eq_of_getElem? hf] at h⟩

theorem enumerationItems_eq (s : Store) :
    s.enumerationItems = s.toList.flatMap fun entry => entry.2.enumerationItems := by
  unfold enumerationItems enumerations
  rw [values_eq_map_toList]
  induction s.toList with
  | nil => rfl
  | cons entry rest ih =>
    rw [List.flatMap_cons, ← ih]
    cases hcases : entry.2.cases with
    | none => simp [Findings.enumerationItems, hcases]
    | some cases => simp [Findings.enumerationItems, hcases]

theorem nodup_enumerationItems_iff (s : Store) :
    s.enumerationItems.Nodup ↔
      (∀ id name, (s.casesOf id name).Nodup) ∧
      ∀ id id' name case, case ∈ s.casesOf id name → case ∈ s.casesOf id' name → id = id' := by
  rw [enumerationItems_eq, nodup_flatMap_toList_iff]
  simp only [Findings.nodup_enumerationItems_iff]
  constructor
  · rintro ⟨hcases, hshared⟩
    refine ⟨?_, ?_⟩
    · intro id name
      cases hf : s[id]? with
      | none => simp [casesOf, Std.ExtTreeMap.getD_eq_getD_getElem?, hf, Findings.casesOf]
      | some f =>
        rw [casesOf_eq_of_getElem? hf]
        exact hcases id f hf name
    · intro id id' name case h h'
      obtain ⟨f, hf, hcase⟩ := exists_of_mem_casesOf h
      obtain ⟨f', hf', hcase'⟩ := exists_of_mem_casesOf h'
      by_contra hne
      exact hshared id id' f f' hne hf hf'
        (Findings.mem_enumerationItems.mpr ⟨name, case, hcase, rfl⟩)
        (Findings.mem_enumerationItems.mpr ⟨name, case, hcase', rfl⟩)
  · rintro ⟨hcases, hshared⟩
    refine ⟨?_, ?_⟩
    · intro id f hf name
      rw [← casesOf_eq_of_getElem? hf]
      exact hcases id name
    · intro id id' f f' hne hf hf' item hitem hitem'
      obtain ⟨name, case, hcase, rfl⟩ := Findings.mem_enumerationItems.mp hitem
      obtain ⟨name', case', hcase', heq⟩ := Findings.mem_enumerationItems.mp hitem'
      obtain ⟨rfl, rfl⟩ := enumerationItem_inj.mp heq
      rw [← casesOf_eq_of_getElem? hf] at hcase
      rw [← casesOf_eq_of_getElem? hf'] at hcase'
      exact hne (hshared id id' name case hcase hcase')

theorem nodup_nameItems (s : Store) (owner : String) : (s.nameItems owner).Nodup := by
  apply List.Nodup.map _ (nodup_distinct _)
  intro name name' heq
  exact (String.append_left_inj "\t:").mp (Item.mk.inj heq).1

end Store

theorem Words.nodup_completeSpending (spent : Document → Nat → Bool) (settings : Settings)
    (active : Document) (others : List Document) (recency : Recency) (typed : String)
    (cursor : Option Nat) :
    (Words.completeSpending spent settings active others recency typed cursor).Nodup := by
  apply List.Nodup.map _ (nodup_distinct _)
  intro word word' heq
  exact (String.append_left_inj "\t.").mp (Item.mk.inj heq).1

/-- No list that a store or the open documents offer holds the same item twice, apart from the
enumeration cases. These are free of repetition exactly if no enumeration lists a case twice and no
two documents declare the same case of enumerations of the same name. The words are distinct
whenever the budget of a document is spent. -/
theorem offered_items_are_distinct (s : Store) :
    (∀ word, (s.callItems word).Nodup) ∧
    (∀ type, (s.memberItems type).Nodup) ∧
    (s.enumerationItems.Nodup ↔
      (∀ id name, (s.casesOf id name).Nodup) ∧
      ∀ id id' name case, case ∈ s.casesOf id name → case ∈ s.casesOf id' name → id = id') ∧
    s.caseItems.Nodup ∧
    (∀ owner, (s.nameItems owner).Nodup) ∧
    ∀ (spent : Document → Nat → Bool) (settings : Settings) (active : Document)
      (others : List Document) (recency : Recency) (typed : String) (cursor : Option Nat),
      (Words.completeSpending spent settings active others recency typed cursor).Nodup :=
  ⟨fun _ => Item.nodup_prune _, fun _ => Item.nodup_prune _, s.nodup_enumerationItems_iff,
    Item.nodup_prune _, s.nodup_nameItems,
    Words.nodup_completeSpending⟩

def sharedEnumeration : Store :=
  (Store.put ∅ 1 { cases := some (.ofPairs [("Direction", "north")]) }).put 2
    { cases := some (.ofPairs [("Direction", "north")]) }

theorem enumeration_items_of_two_documents_repeat :
    sharedEnumeration.enumerationItems =
        [⟨"Direction.north", "north"⟩, ⟨"Direction.north", "north"⟩] ∧
      ¬sharedEnumeration.enumerationItems.Nodup := by
  decide

end Autocomplete
