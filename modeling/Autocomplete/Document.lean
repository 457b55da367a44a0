import Autocomplete.Scan.Position
import Autocomplete.Scan.Window
import Autocomplete.Text.Lines

/-!
# Documents

A document is a buffer of characters under an identifier. Offsets beyond the end count as the end.
Lines end at a newline, a carriage return (together with the newline after it), a vertical tab, a
form feed, a next-line character or a line or paragraph separator; the plain lines end at newlines
alone.
-/

namespace Autocomplete

open Scan Text

structure Document where
  id : Nat
  chars : Array Char
  deriving DecidableEq, Repr

namespace Document

def ofString (id : Nat) (text : String) : Document := ⟨id, text.toList.toArray⟩

def length (d : Document) : Nat := d.chars.size

def text (d : Document) : String := String.ofList d.chars.toList

/-- The character at an offset, if the offset lies before the end. -/
def char? (d : Document) (offset : Nat) : Option Char := d.chars[offset]?

/-- The text of a window, as far as the document reaches. -/
def textIn (d : Document) (w : Window) : String := String.ofList (w.slice d.chars).toList

def withText (d : Document) (text : String) : Document := { d with chars := text.toList.toArray }

def insert (d : Document) (offset : Nat) (text : String) : Document :=
  { d with chars := d.chars.extract 0 offset ++ text.toList.toArray ++
      d.chars.extract offset d.chars.size }

/-- Whether the character at an offset satisfies `p`. -/
def charSatisfies (d : Document) (p : Char → Bool) (offset : Nat) : Bool :=
  (d.char? offset).any p

/-- The longest range of characters with a property around an offset. -/
def rangeAround (d : Document) (p : Char → Bool) (offset : Nat) : Window :=
  let offset := min offset d.length
  ⟨runStart (d.charSatisfies p) offset, runEnd (d.charSatisfies p) offset d.length⟩

/-- The word that touches an offset, or the empty range there. -/
def wordAt (d : Document) (offset : Nat) : Window := d.rangeAround isNameChar offset

/-- The line of an offset when lines end at newlines alone. -/
def plainLineAt (d : Document) (offset : Nat) : Window := d.rangeAround (· != '\n') offset

/-- The characters that end a line, each on its own or as the first of a pair. -/
def isLineBreak (c : Char) : Bool :=
  c == '\n' || c == '\r' || c == '\x0b' || c == '\x0c' || c == '\u0085' || c == '\u2028' ||
    c == '\u2029'

/-- Whether a line starts at an offset: at the start, or after a break that is not the first half
of a carriage return and newline. -/
def isLineStart (d : Document) : (offset : Nat) → Bool
  | 0 => true
  | offset + 1 =>
    d.charSatisfies isLineBreak offset &&
      !(d.char? offset == some '\r' && d.char? (offset + 1) == some '\n')

/-- The greatest offset up to the given one at which a line starts. -/
def lineStart (d : Document) : (offset : Nat) → Nat
  | 0 => 0
  | offset + 1 => if d.isLineStart (offset + 1) then offset + 1 else d.lineStart offset

/-- The line of an offset, without the carriage returns and newlines at its end. -/
def lineAt (d : Document) (offset : Nat) : Window :=
  let offset := min offset d.length
  let start := d.lineStart offset
  let next := (firstIn? d.isLineStart (offset + 1) d.length).getD d.length
  ⟨start, max start (runStart (d.charSatisfies fun c => c == '\n' || c == '\r') next)⟩

/-- The part before `stop` of the word that touches it. -/
def wordEndingAt (d : Document) (stop : Nat) : String :=
  d.textIn ⟨min (d.wordAt stop).start stop, stop⟩

def lineBefore (d : Document) (cursor : Nat) : String :=
  d.textIn ⟨(d.lineAt cursor).start, cursor⟩

/-- A line without the carriage return of its line end. -/
def dropReturn (line : List Char) : List Char :=
  if line.getLast? = some '\r' then line.dropLast else line

/-- The complete lines of a text, and what is left after the last newline if it is not empty. -/
def completeLines (cs : List Char) : List (List Char) :=
  let ls := lines cs
  ls.dropLast.map dropReturn ++ (ls.drop (ls.length - 1)).filter (!·.isEmpty)

/-- The last `count` lines before the cursor line that are no comments, and the cursor line up to
the cursor. -/
def contextBefore (d : Document) (cursor count : Nat) : String :=
  let start := (d.lineAt cursor).start
  let before := completeLines (Window.slice ⟨0, start⟩ d.chars).toList
  let kept := ((before.reverse.filter (!isCommentLine ·)).take count).reverse
  String.ofList (unlines (kept ++ [(Window.slice ⟨start, cursor⟩ d.chars).toList]))

@[simp] theorem text_ofString (id : Nat) (text : String) : (ofString id text).text = text := by
  simp [ofString, Document.text]

@[simp] theorem length_ofString (id : Nat) (text : String) :
    (ofString id text).length = text.length := by
  simp [ofString, length, String.length_toList]

theorem lineStart_le (d : Document) (offset : Nat) : d.lineStart offset ≤ offset := by
  induction offset with
  | zero => exact Nat.le_refl _
  | succ offset ih =>
    unfold lineStart
    split
    · exact Nat.le_refl _
    · omega

end Document

end Autocomplete
