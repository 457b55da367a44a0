import Autocomplete.Proofs.Text.FirstAppearances
import Autocomplete.Proofs.Words.Recency
import Autocomplete.Words.Complete
import Mathlib.Data.List.Find
import Mathlib.Data.List.Nodup

/-!
# The documents that words are taken from

Words are taken from the active document, from the tracked ones and from the rest, in this order. As
each identifier counts once, a document is passed over that has the identifier of one before it. So
the order in which the other documents are given counts only among those that are not tracked, and
among several under one identifier.
-/

namespace Autocomplete
namespace Words

/-- The first of the documents under each of the given identifiers. -/
def found (others : List Document) (ids : List Nat) : List Document :=
  ids.filterMap fun id => others.find? (·.id == id)

/-- The documents that words may be taken from: the active one, then for each tracked one apart from
it the first of the others with that identifier, then the first of each identifier among the
rest. -/
def ranked (active : Document) (others : List Document) (order : List Nat) : List Document :=
  active :: (found others (order.filter (· ≠ active.id)) ++
    firstOfEach (·.id) (others.filter fun d => d.id ≠ active.id ∧ d.id ∉ order))

section Found

variable {others : List Document} {ids : List Nat}

theorem id_of_find? {id : Nat} {d : Document} (h : others.find? (·.id == id) = some d) :
    d.id = id := by
  simpa using List.find?_some h

theorem map_id_found (others : List Document) (ids : List Nat) :
    (found others ids).map (·.id) = ids.filter (· ∈ others.map (·.id)) := by
  induction ids with
  | nil => rfl
  | cons id ids ih =>
    rw [found, List.filterMap_cons]
    cases h : others.find? (·.id == id) with
    | none =>
      have hnone : id ∉ others.map (·.id) := by simpa using h
      rw [List.filter_cons_of_neg (by simpa using hnone), ← ih]
      rfl
    | some d =>
      have hid := id_of_find? h
      have hsome : id ∈ others.map (·.id) :=
        List.mem_map.mpr ⟨d, List.mem_of_find?_eq_some h, hid⟩
      rw [List.filter_cons_of_pos (by simpa using hsome), ← ih, List.map_cons, hid]
      rfl

/-- Documents are found under the identifiers that they are looked for. -/
theorem filter_found (others : List Document) (ids : List Nat) (p : Nat → Bool) :
    (found others ids).filter (fun d => p d.id) = found others (ids.filter p) := by
  rw [found, found, List.filter_filterMap, List.filterMap_filter]
  congr 1
  funext id
  cases h : others.find? (·.id == id) with
  | none => simp
  | some d => simp [Option.filter, id_of_find? h]

theorem found_eq_of_perm {others' : List Document} (hids : (others.map (·.id)).Nodup)
    (h : others'.Perm others) (ids : List Nat) : found others' ids = found others ids := by
  have hinj := List.inj_on_of_nodup_map hids
  rw [found, found]
  congr 1
  funext id
  refine (List.find?_eq_find?_of_perm h.symm ?_).symm
  rintro d ⟨hd, hid⟩ e ⟨he, hid'⟩
  exact hinj hd he ((beq_iff_eq.mp hid).trans (beq_iff_eq.mp hid').symm)

theorem not_mem_found_iff {d : Document} (hd : d ∈ others) (ids : List Nat) :
    d.id ∉ (found others ids).map (·.id) ↔ d.id ∉ ids := by
  rw [map_id_found, List.mem_filter]
  have hin : d.id ∈ others.map (·.id) := List.mem_map_of_mem hd
  simp [hin]

theorem distinctBy_eq_ranked (active : Document) (others : List Document) {order : List Nat}
    (hnodup : order.Nodup) :
    distinctBy (·.id) (active :: (found others order ++ others)) = ranked active others order := by
  have hrecent : (found others order).filter (·.id ≠ active.id) =
      found others (order.filter (· ≠ active.id)) :=
    filter_found others order fun id => decide (id ≠ active.id)
  have honce : ((found others (order.filter (· ≠ active.id))).map (·.id)).Nodup := by
    rw [map_id_found]
    exact (hnodup.filter _).filter _
  have hrest : (others.filter (·.id ≠ active.id)).filter
        (·.id ∉ (found others (order.filter (· ≠ active.id))).map (·.id)) =
      others.filter fun d => d.id ≠ active.id ∧ d.id ∉ order := by
    rw [List.filter_filter]
    apply List.filter_congr
    intro d hd
    simp only [not_mem_found_iff hd, List.mem_filter]
    by_cases h : d.id = active.id <;> simp [h]
  -- The identifier of the active document may as well be left out before the repetitions are
  -- dropped.
  have hothers := distinctBy_filter (·.id) (fun id => decide (id ≠ active.id))
    (found others order ++ others)
  rw [distinctBy_cons, ← hothers, List.filter_append, hrecent, distinctBy_append_filter,
    distinctBy_of_nodup honce, hrest, distinctBy_eq_firstOfEach, ranked]

/-- Tracked documents that are known under one identifier each are ranked by the tracker alone. -/
theorem ranked_eq_of_perm {active : Document} {others' : List Document} {order : List Nat}
    (hids : (others.map (·.id)).Nodup) (htracked : ∀ d ∈ others, d.id ∈ order)
    (h : others'.Perm others) : ranked active others' order = ranked active others order := by
  have hnone : ∀ docs : List Document, docs.Perm others →
      (docs.filter fun d => d.id ≠ active.id ∧ d.id ∉ order) = [] := by
    intro docs hdocs
    rw [List.filter_eq_nil_iff]
    intro d hd
    simp [htracked d (hdocs.mem_iff.mp hd)]
  rw [ranked, ranked, found_eq_of_perm hids h, hnone others' h, hnone others (.refl others)]

end Found

/-- After any run of a tracker, words are taken from the first of the ranked documents, up to the
greatest number, and from no two documents under one identifier. Other documents that are all
tracked, each under an identifier of its own, may be given in any order. This holds whenever the
budget of a document is spent. -/
theorem words_come_from_ranked_documents (capacity : Nat) (events : List Recency.Event)
    (settings : Settings) (active : Document) (others : List Document) (typed : String)
    (cursor : Option Nat) (spent : Document → Nat → Bool) :
    let recency := Recency.after capacity events
    let docs := (ranked active others recency.order).take settings.maxDocuments
    completeSpending spent settings active others recency typed cursor =
      (distinct (docs.flatMap fun d =>
        ofDocument settings (spent d) typed (if d.id = active.id then cursor else none) d)).map
          item ∧
    (docs.map (·.id)).Nodup ∧
    ∀ others' : List Document, (others.map (·.id)).Nodup → (∀ d ∈ others, d.id ∈ recency.order) →
      others'.Perm others →
      completeSpending spent settings active others' recency typed cursor =
        completeSpending spent settings active others recency typed cursor := by
  intro recency docs
  have hnodup : recency.order.Nodup :=
    (Recency.front_after capacity events).sublist.nodup (Recency.mostRecentFirst_inUse events).nodup
  have hconsulted : ∀ others : List Document,
      consulted active others recency settings.maxDocuments =
        (ranked active others recency.order).take settings.maxDocuments :=
    fun others => congrArg (List.take _) (distinctBy_eq_ranked active others hnodup)
  refine ⟨?_, ?_, ?_⟩
  · rw [completeSpending, hconsulted]
  · have hkeys := nodup_map_distinctBy (·.id) (active :: (found others recency.order ++ others))
    rw [distinctBy_eq_ranked active others hnodup] at hkeys
    exact hkeys.sublist ((List.take_sublist _ _).map _)
  · intro others' hids htracked h
    rw [completeSpending, completeSpending, hconsulted, hconsulted,
      ranked_eq_of_perm hids htracked h]

def draft : Document := .ofString 1 "let counter = co"

def sideDocuments : List Document := [.ofString 2 "count", .ofString 3 "column"]

/-- The first document was opened last, the third one before it. -/
def openings : List Recency.Event := [.activated 2, .activated 3, .activated 1]

theorem words_come_from_ranked_documents_beside_draft :
    let recency := Recency.after 40 openings
    (sideDocuments.map (·.id)).Nodup ∧ (∀ d ∈ sideDocuments, d.id ∈ recency.order) ∧
      ((ranked draft sideDocuments recency.order).take 2).map (·.id) = [1, 3] ∧
      ∀ spent, completeSpending spent {} draft sideDocuments.reverse recency "co" (some 16) =
        completeSpending spent {} draft sideDocuments recency "co" (some 16) := by
  intro recency
  have hids : (sideDocuments.map (·.id)).Nodup := by decide
  have htracked : ∀ d ∈ sideDocuments, d.id ∈ recency.order := by decide
  refine ⟨hids, htracked, by decide, ?_⟩
  intro spent
  obtain ⟨-, -, hperm⟩ :=
    words_come_from_ranked_documents 40 openings {} draft sideDocuments "co" (some 16) spent
  exact hperm sideDocuments.reverse hids htracked (List.reverse_perm sideDocuments)

/-- A document that is not tracked comes last, and only the first one under each identifier
counts. -/
example :
    (ranked draft [.ofString 4 "a", .ofString 2 "b", .ofString 4 "c", .ofString 2 "d", draft]
      [3, 2, 1]).map (·.text) = ["let counter = co", "b", "a"] := by
  decide +kernel

end Words
end Autocomplete
