import Autocomplete.Text.Classes

/-!
# Lines and surrounding blanks

Text is cut into lines at newline characters alone, so that joining the lines with newlines gives
the text back. Trimming removes every character with the property White Space.
-/

namespace Autocomplete
namespace Text

def lines (cs : List Char) : List (List Char) := cs.splitOn '\n'

def unlines (ls : List (List Char)) : List Char := ['\n'].intercalate ls

def trimStart (cs : List Char) : List Char := cs.dropWhile isBlank

def trimEnd (cs : List Char) : List Char := (cs.reverse.dropWhile isBlank).reverse

def trim (cs : List Char) : List Char := trimEnd (trimStart cs)

def isCommentLine (line : List Char) : Bool := ['/', '/'].isPrefixOf (trimStart line)

def indentation (line : List Char) : Nat := (line.takeWhile (· == ' ')).length

@[simp] theorem trimStart_nil : trimStart [] = [] := rfl

@[simp] theorem trim_nil : trim [] = [] := rfl

def contains (part : List Char) : List Char → Bool
  | [] => part.isEmpty
  | c :: rest => part.isPrefixOf (c :: rest) || contains part rest

theorem contains_iff_isInfix {part text : List Char} :
    contains part text = true ↔ part <:+: text := by
  induction text with
  | nil => simp [contains]
  | cons c rest ih => simp [contains, ih, List.infix_cons_iff]

end Text
end Autocomplete
