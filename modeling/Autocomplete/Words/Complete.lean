import Autocomplete.Document
import Autocomplete.Snippet
import Autocomplete.Suggestion
import Autocomplete.Words.Extract
import Autocomplete.Words.Recency
import Autocomplete.Words.Repair

/-!
# Completing words

Words are taken from the active document, then from the other documents in the order in which they
were active, then from the rest.
-/

namespace Autocomplete
namespace Words

/-- The documents whose words are offered, each once. -/
def consulted (active : Document) (others : List Document) (recency : Recency) (count : Nat) :
    List Document :=
  let recent := recency.order.filterMap fun id => others.find? (·.id == id)
  (distinctBy (·.id) (active :: (recent ++ others))).take count

/-- The words that one document offers when its budget is spent after the given words. -/
def ofDocument (settings : Settings) (spent : Nat → Bool) (typed : String) (cursor : Option Nat)
    (d : Document) : List String :=
  repair d.text spent (limit settings (extract d.text typed cursor))

/-- The item that offers a word. -/
def item (word : String) : Item := ⟨word ++ "\t.", Snippet.escape word⟩

/-- The words of all consulted documents, each with its own schedule of the budget. The cursor
counts in the active one alone. -/
def completeSpending (spent : Document → Nat → Bool) (settings : Settings) (active : Document)
    (others : List Document) (recency : Recency) (typed : String) (cursor : Option Nat) :
    List Item :=
  (distinct ((consulted active others recency settings.maxDocuments).flatMap fun d =>
    ofDocument settings (spent d) typed (if d.id = active.id then cursor else none) d)).map item

/-- The words under the schedule that the budget of the settings stands for. -/
def complete (settings : Settings) (active : Document) (others : List Document)
    (recency : Recency) (typed : String) (cursor : Option Nat) : List Item :=
  completeSpending (fun _ => settings.repairSpent) settings active others recency typed cursor

end Words
end Autocomplete
