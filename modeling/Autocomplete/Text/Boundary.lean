import Autocomplete.Text.Classes

/-!
# Word boundaries

A boundary lies between two neighbours of which exactly one is a word character in the wide sense;
outside the text there is none. A word occurs whole where boundaries stand on both sides of it. An
extension of a word is a whole occurrence of the word with one more word character.
-/

namespace Autocomplete
namespace Text

def isBoundary (before after : Option Char) : Bool :=
  before.any isWideWordChar != after.any isWideWordChar

/-- Whether `word` starts the text after `before` and is not cut out of a longer word. -/
def wholeAt (word : List Char) (before : Option Char) (text : List Char) : Bool :=
  isBoundary before text.head? && word.isPrefixOf text &&
    isBoundary (word.getLast?.or before) (text.drop word.length).head?

/-- Whether `word` occurs whole in the text that follows `before`. -/
def occursWhole (word : List Char) : (before : Option Char) → List Char → Bool
  | before, [] => wholeAt word before []
  | before, c :: rest => wholeAt word before (c :: rest) || occursWhole word (some c) rest

/-- The character that extends `word` to a whole occurrence at the start of the text. -/
def extensionAt? (word : List Char) (before : Option Char) (text : List Char) : Option Char :=
  if isBoundary before text.head? && word.isPrefixOf text then
    match text.drop word.length with
    | c :: rest => if isWideWordChar c && isBoundary (some c) rest.head? then some c else none
    | [] => none
  else none

/-- The whole occurrences of `word` with one more character, from left to right and without
overlaps; the next `skip` characters belong to an occurrence already found. -/
def extensions (word : List Char) : (skip : Nat) → (before : Option Char) → List Char →
    List (List Char)
  | _, _, [] => []
  | skip + 1, _, c :: rest => extensions word skip (some c) rest
  | 0, before, c :: rest =>
    match extensionAt? word before (c :: rest) with
    | some last => (word ++ [last]) :: extensions word word.length (some c) rest
    | none => extensions word 0 (some c) rest

end Text
end Autocomplete
