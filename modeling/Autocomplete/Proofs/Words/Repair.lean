import Autocomplete.Proofs.Text.LongestRuns
import Autocomplete.Proofs.Words.Ranking
import Autocomplete.Words.Complete

/-!
# Where repair changes nothing

Words are read by one notion of word character and repaired by another. In a text where the two
agree, each word read is a longest run for word boundaries as well, so it occurs whole and repair
keeps it. Then it is of no account when the budget is spent.
-/

namespace Autocomplete

open Scan Text

/-- Each character of the text is a word character in both senses or in neither. -/
def OneKindOfWord (text : String) : Prop :=
  ∀ c ∈ text.toList, isNameChar c = isWideWordChar c

instance (text : String) : Decidable (OneKindOfWord text) :=
  List.decidableBAll (fun c => isNameChar c = isWideWordChar c) text.toList

namespace Words

theorem occursWhole_of_standsAt {text word : String} {w : Window} (hsame : OneKindOfWord text)
    (h : StandsAt text word w) : occursWhole word.toList none text.toList = true := by
  obtain ⟨before, after, htext, hrun, -⟩ := h
  have hwide := hrun.congr fun c hc => hsame c (htext ▸ hc)
  rw [occursWhole_iff hrun.nonempty, htext]
  exact whole_of_isRun hwide

theorem mem_of_mem_limit {settings : Settings} {words : List String} {word : String}
    (h : word ∈ limit settings words) : word ∈ words :=
  List.mem_of_mem_take (List.mem_filter.mp h).1

theorem repairOne_of_occursWhole {text : List Char} {word : String}
    (h : occursWhole word.toList none text = true) : repairOne text word.toList = [word] := by
  rw [repairOne, if_pos h, String.ofList_toList]

theorem repairFrom_of_occursWhole {text : List Char} {words : List String}
    (h : ∀ word ∈ words, occursWhole word.toList none text = true) (spent : Nat → Bool)
    (index : Nat) : repairFrom text spent index words = words := by
  induction words generalizing index with
  | nil => rfl
  | cons word rest ih =>
    have hrest := ih (fun other hother => h other (List.mem_cons_of_mem _ hother)) (index + 1)
    rw [repairFrom, repairOne_of_occursWhole (h word List.mem_cons_self), hrest, ite_self]
    rfl

/-- Repair keeps the words of a text in which both notions of word character agree. -/
theorem repair_limit_extract {text : String} (hsame : OneKindOfWord text) (settings : Settings)
    (typed : String) (cursor : Option Nat) (spent : Nat → Bool) :
    repair text spent (limit settings (extract text typed cursor)) =
      limit settings (extract text typed cursor) := by
  apply repairFrom_of_occursWhole
  intro word hword
  obtain ⟨-, w, hstands, -⟩ := mem_extract_iff.mp (mem_of_mem_limit hword)
  exact occursWhole_of_standsAt hsame hstands

/-- Completion without repair. -/
def completeUnrepaired (settings : Settings) (active : Document) (others : List Document)
    (recency : Recency) (typed : String) (cursor : Option Nat) : List Item :=
  (distinct ((consulted active others recency settings.maxDocuments).flatMap fun d =>
    limit settings (extract d.text typed (if d.id = active.id then cursor else none)))).map item

theorem complete_eq_completeSpending (settings : Settings) (active : Document)
    (others : List Document) (recency : Recency) (typed : String) (cursor : Option Nat) :
    complete settings active others recency typed cursor =
      completeSpending (fun _ => settings.repairSpent) settings active others recency typed
        cursor := rfl

/-- Where both notions of word character agree in all consulted documents, repair keeps the words
of each of them, and the items are those without repair, whenever the budget is spent. -/
theorem completion_ignores_repair {settings : Settings} {active : Document}
    {others : List Document} {recency : Recency}
    (hsame : ∀ d ∈ consulted active others recency settings.maxDocuments, OneKindOfWord d.text) :
    (∀ d ∈ consulted active others recency settings.maxDocuments, ∀ typed cursor spent,
      repair d.text spent (limit settings (extract d.text typed cursor)) =
        limit settings (extract d.text typed cursor)) ∧
    (∀ spent typed cursor,
      completeSpending spent settings active others recency typed cursor =
        completeUnrepaired settings active others recency typed cursor) ∧
    ∀ budget typed cursor,
      complete { settings with repairBudget := budget } active others recency typed cursor =
        completeUnrepaired settings active others recency typed cursor := by
  have hkept : ∀ d ∈ consulted active others recency settings.maxDocuments,
      ∀ typed cursor spent, repair d.text spent (limit settings (extract d.text typed cursor)) =
        limit settings (extract d.text typed cursor) :=
    fun d hd typed cursor spent => repair_limit_extract (hsame d hd) settings typed cursor spent
  have hspending : ∀ spent typed cursor,
      completeSpending spent settings active others recency typed cursor =
        completeUnrepaired settings active others recency typed cursor := by
    intro spent typed cursor
    have hwords : ((consulted active others recency settings.maxDocuments).flatMap fun d =>
        ofDocument settings (spent d) typed (if d.id = active.id then cursor else none) d) =
        (consulted active others recency settings.maxDocuments).flatMap fun d =>
          limit settings (extract d.text typed (if d.id = active.id then cursor else none)) :=
      List.flatMap_congr fun d hd => hkept d hd _ _ _
    rw [completeSpending, completeUnrepaired, hwords]
  refine ⟨hkept, hspending, ?_⟩
  intro budget typed cursor
  rw [complete_eq_completeSpending]
  exact hspending _ typed cursor

def typingDocument : Document := .ofString 1 "let counter = co"

def besideDocument : Document := .ofString 2 "count column"

def longWords : Settings where
  minWordSize := 6

theorem completion_ignores_repair_beside_typing :
    (∀ d ∈ consulted typingDocument [besideDocument] ⟨5, [2]⟩ longWords.maxDocuments,
      OneKindOfWord d.text) ∧
    ∀ budget, complete { longWords with repairBudget := budget } typingDocument [besideDocument]
      ⟨5, [2]⟩ "co" (some 16) = [item "counter", item "column"] := by
  have hsame : ∀ d ∈ consulted typingDocument [besideDocument] ⟨5, [2]⟩ longWords.maxDocuments,
      OneKindOfWord d.text := by
    decide +kernel
  have hactive : candidates typingDocument.text.toList.toArray "co" (some 16) =
      [⟨5, "counter"⟩] := by
    decide +kernel
  have hbeside : candidates besideDocument.text.toList.toArray "co" none =
      [⟨0, "count"⟩, ⟨0, "column"⟩] := by
    decide +kernel
  refine ⟨hsame, ?_⟩
  intro budget
  obtain ⟨-, -, hbudget⟩ := completion_ignores_repair hsame
  have hconsulted : consulted typingDocument [besideDocument] ⟨5, [2]⟩ longWords.maxDocuments =
      [typingDocument, besideDocument] := rfl
  have hid : besideDocument.id ≠ typingDocument.id := by decide
  have hsorted : ([⟨0, "count"⟩, ⟨0, "column"⟩] : List Candidate).mergeSort
      (fun a b => a.distance ≤ b.distance) = [⟨0, "count"⟩, ⟨0, "column"⟩] :=
    List.mergeSort_of_pairwise (by simp)
  rw [hbudget budget, completeUnrepaired, hconsulted]
  simp only [List.flatMap_cons, List.flatMap_nil, if_pos, if_neg hid, extract, hactive, hbeside,
    List.mergeSort_singleton, hsorted]
  rfl

end Words
end Autocomplete
