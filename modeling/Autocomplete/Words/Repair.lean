import Autocomplete.Text.Boundary

/-!
# Repairing cut off words

A word that does not occur whole in the text counts as cut off by one character. It is replaced by
its extensions in the text, or kept when there are none. Once the budget is spent, the remaining
words are kept as they are.
-/

namespace Autocomplete
namespace Words

open Text

def repairOne (text word : List Char) : List String :=
  if occursWhole word none text then [String.ofList word]
  else match extensions word 0 none text with
    | [] => [String.ofList word]
    | found => found.map String.ofList

/-- Repairs words from `index` on, until the budget is spent after one of them. -/
def repairFrom (text : List Char) (spent : Nat → Bool) : (index : Nat) → List String → List String
  | _, [] => []
  | index, word :: rest =>
    repairOne text word.toList ++
      if spent index then rest else repairFrom text spent (index + 1) rest

/-- Repairs words of a text; `spent` tells after which words the budget is spent. -/
def repair (text : String) (spent : Nat → Bool) (words : List String) : List String :=
  repairFrom text.toList spent 0 words

end Words
end Autocomplete
