import Autocomplete.Text.Boundary
import Autocomplete.Text.Lines

/-!
# Outlines of large sources

Two lossy reductions of a source before it is scanned. The first drops blank lines and comment
lines. The second keeps declarations and drops bodies by indentation alone: after a line that opens
the body of a function or an initializer, every line at least one level deeper is dropped, until a
lone closing brace stands at the indentation of the opening line.
-/

namespace Autocomplete
namespace Outline

open Text

/-- Drops blank lines and lines that hold only a `//` comment. -/
def dropComments (text : String) : String :=
  String.ofList (unlines ((lines text.toList).filter fun line =>
    !(trim line).isEmpty && !isCommentLine line))

def isAsciiLetter (c : Char) : Bool := ('a' ≤ c && c ≤ 'z') || ('A' ≤ c && c ≤ 'Z')

/-- What follows the opening parenthesis of `func name(` or `init(` at the start of the text. -/
def afterCallHead? : List Char → Option (List Char)
  | 'f' :: 'u' :: 'n' :: 'c' :: rest =>
    let named := rest.dropWhile isBlank
    match named.dropWhile isAsciiLetter with
    | '(' :: after =>
      if rest.head?.any isBlank && named.head?.any isAsciiLetter then some after else none
    | _ => none
  | 'i' :: 'n' :: 'i' :: 't' :: '(' :: after => some after
  | _ => none

/-- Whether a body opens in the text that follows `before`: a declaration head that is not the end
of a longer word, with an opening brace anywhere after it. -/
def opensBodyAfter : (before : Option Char) → List Char → Bool
  | _, [] => false
  | before, c :: rest =>
    (isBoundary before (some c) && ((afterCallHead? (c :: rest)).any (·.contains '{'))) ||
      opensBodyAfter (some c) rest

/-- Whether a line opens the body of a function or an initializer. -/
def opensBody (line : List Char) : Bool := opensBodyAfter none line

/-- A closing brace and blanks. -/
def isLoneBrace (line : List Char) : Bool := trim line == ['}']

/-- The indentations of the bodies still open at a line; the innermost comes first. -/
def openAt (opened : List Nat) (line : List Char) : List Nat :=
  if isLoneBrace line then opened.dropWhile (· == indentation line) else opened

/-- Whether a line lies inside the innermost open body. -/
def isInside (width : Nat) (opened : List Nat) (line : List Char) : Bool :=
  opened.head?.any fun indent => indent + width ≤ indentation line

/-- The lines that are kept while the bodies `opened` are open. -/
def keptLines (width : Nat) : (opened : List Nat) → List (List Char) → List (List Char)
  | _, [] => []
  | opened, line :: rest =>
    let opened := openAt opened line
    if isInside width opened line then keptLines width opened rest
    else line :: keptLines width
      (if opensBody line then indentation line :: opened else opened) rest

/-- Drops the bodies of functions and initializers. -/
def dropBodies (width : Nat) (text : String) : String :=
  String.ofList (unlines (keptLines width [] (lines text.toList)))

theorem keptLines_sublist (width : Nat) (opened : List Nat) (ls : List (List Char)) :
    (keptLines width opened ls).Sublist ls := by
  induction ls generalizing opened with
  | nil => exact .slnil
  | cons line rest ih =>
    simp only [keptLines]
    split
    · exact (ih _).cons _
    · exact (ih _).cons_cons _

end Outline
end Autocomplete
