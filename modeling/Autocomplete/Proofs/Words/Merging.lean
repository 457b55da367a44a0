import Autocomplete.Proofs.Text.Pruning
import Autocomplete.Proofs.Words.Blocks
import Autocomplete.Proofs.Words.Ranking
import Autocomplete.Words.Complete

/-!
# Words that are pruned twice

The words of a document are pruned by themselves, and those of all documents together in the end. In
between, each word is left out for its length, kept or repaired, whatever the other words are. So
the items are those that the last pruning alone would leave, as long as no document has more words
than are taken from one and the budget lasts. The first pruning makes that number count words, not
places.
-/

namespace Autocomplete
namespace Words

/-- The words that start with what is typed, one for each of their places, the nearest place
first. -/
def placedWords (text typed : String) (cursor : Option Nat) : List String :=
  (rankedPlaces text typed cursor).map (wordIn text)

/-- What a document offers when its words are not pruned by themselves. -/
def ofPlaces (settings : Settings) (spent : Nat → Bool) (typed : String) (cursor : Option Nat)
    (d : Document) : List String :=
  repair d.text spent (limit settings (placedWords d.text typed cursor))

theorem extract_eq_distinct (text typed : String) (cursor : Option Nat) :
    extract text typed cursor = distinct (placedWords text typed cursor) := by
  rw [extract_eq, placedWords, distinct_map]

section

variable {settings : Settings}

theorem limit_distinct {words : List String}
    (h : words.length ≤ settings.maxWordsPerDocument) :
    limit settings (distinct words) = distinct (limit settings words) := by
  have hle : (distinct words).length ≤ settings.maxWordsPerDocument :=
    (distinctBy_sublist id words).length_le.trans h
  rw [limit, limit, List.take_of_length_le h, List.take_of_length_le hle]
  exact (distinctBy_filter id (fun word => settings.acceptsWordSize word.length) words).symm

theorem distinct_ofDocument {spent : Nat → Bool} {typed : String} {cursor : Option Nat}
    {d : Document} (hlasts : ∀ index, spent index = false)
    (hplaces : (placedWords d.text typed cursor).length ≤ settings.maxWordsPerDocument) :
    distinct (ofDocument settings spent typed cursor d) =
      distinct (ofPlaces settings spent typed cursor d) := by
  have hrepair : ∀ words, repair d.text spent words =
      words.flatMap fun word => repairOne d.text.toList word.toList :=
    fun words => repair_eq_flatMap fun index _ => hlasts index
  rw [ofDocument, ofPlaces, hrepair, hrepair, extract_eq_distinct, limit_distinct hplaces,
    distinct_flatMap_distinct]

/-- Where no document has too many words and the budget lasts, words are as well pruned in the end
alone. -/
theorem completeSpending_eq_of_ofPlaces {spent : Document → Nat → Bool} {active : Document}
    {others : List Document} {recency : Recency} {typed : String} {cursor : Option Nat}
    (hlasts : ∀ d ∈ consulted active others recency settings.maxDocuments, ∀ index,
      spent d index = false)
    (hplaces : ∀ d ∈ consulted active others recency settings.maxDocuments,
      (placedWords d.text typed (if d.id = active.id then cursor else none)).length ≤
        settings.maxWordsPerDocument) :
    completeSpending spent settings active others recency typed cursor =
      (distinct ((consulted active others recency settings.maxDocuments).flatMap fun d =>
        ofPlaces settings (spent d) typed (if d.id = active.id then cursor else none) d)).map
          item := by
  have hwords : distinct ((consulted active others recency settings.maxDocuments).flatMap fun d =>
        ofDocument settings (spent d) typed (if d.id = active.id then cursor else none) d) =
      distinct ((consulted active others recency settings.maxDocuments).flatMap fun d =>
        ofPlaces settings (spent d) typed (if d.id = active.id then cursor else none) d) :=
    distinctBy_flatMap_congr fun d hd => distinct_ofDocument (hlasts d hd) (hplaces d hd)
  rw [completeSpending, hwords]

/-- With room for two words of a document, a word that stands there twice counts once. -/
example :
    complete { maxWordsPerDocument := 2 } (.ofString 1 "size size color") [] ⟨5, []⟩ "" none =
      [item "size", item "color"] := by
  cbv

end

end Words
end Autocomplete
