import Autocomplete.Text.CodeTable
import Autocomplete.Text.Property.Alphabetic
import Autocomplete.Text.Property.CaseIgnorable
import Autocomplete.Text.Property.Cased
import Autocomplete.Text.Property.DecimalDigit
import Autocomplete.Text.Property.Lowercase
import Autocomplete.Text.Property.Mark
import Autocomplete.Text.Property.Number
import Autocomplete.Text.Property.Recent
import Autocomplete.Text.Property.Uppercase

/-!
# Character classes

Two notions of word character are in use. A scanned word is made of alphanumerics and underscores.
Word boundaries follow the wider notion of the character standard, in which combining marks,
connecting punctuation and the join controls belong to words as well, while numbers that are
neither digits nor letters do not. Boundaries also keep to the edition of the standard before the
latest, so that the characters added last are names but no part of a word.
-/

namespace Autocomplete
namespace Text

def isAlphabetic (c : Char) : Bool := covers alphabeticRuns c.toNat

def isNumeric (c : Char) : Bool := covers numberRuns c.toNat

def isUppercase (c : Char) : Bool := covers uppercaseRuns c.toNat

def isLowercase (c : Char) : Bool := covers lowercaseRuns c.toNat

def isCased (c : Char) : Bool := covers casedRuns c.toNat

def isCaseIgnorable (c : Char) : Bool := covers caseIgnorableRuns c.toNat

/-- Alphanumerics and `_`. -/
def isNameChar (c : Char) : Bool := c == '_' || isAlphabetic c || isNumeric c

/-- Alphanumerics, `_` and `.`, as in a dotted member path. -/
def isPathChar (c : Char) : Bool := isNameChar c || c == '.'

/-- Punctuation that connects two words into one. -/
def connectorRuns : List CodeRun := [
  ⟨0x5F, 0x5F, 1⟩, ⟨0x203F, 0x2040, 1⟩, ⟨0x2054, 0x2054, 1⟩, ⟨0xFE33, 0xFE34, 1⟩,
  ⟨0xFE4D, 0xFE4F, 1⟩, ⟨0xFF3F, 0xFF3F, 1⟩]

/-- The zero width joiner and non-joiner. -/
def joinControlRuns : List CodeRun := [⟨0x200C, 0x200D, 1⟩]

/-- Whether the latest edition of the standard added `c` as a word character. -/
def isRecent (c : Char) : Bool := covers recentRuns c.toNat

/-- The characters that count as part of a word when a word boundary is looked for. -/
def isWideWordChar (c : Char) : Bool :=
  !isRecent c &&
    (isAlphabetic c || covers decimalDigitRuns c.toNat || covers connectorRuns c.toNat ||
      covers markRuns c.toNat || covers joinControlRuns c.toNat)

def whiteSpaceRuns : List CodeRun := [
  ⟨0x9, 0xD, 1⟩, ⟨0x20, 0x20, 1⟩, ⟨0x85, 0x85, 1⟩, ⟨0xA0, 0xA0, 1⟩, ⟨0x1680, 0x1680, 1⟩,
  ⟨0x2000, 0x200A, 1⟩, ⟨0x2028, 0x2029, 1⟩, ⟨0x202F, 0x202F, 1⟩, ⟨0x205F, 0x205F, 1⟩,
  ⟨0x3000, 0x3000, 1⟩]

def isBlank (c : Char) : Bool := covers whiteSpaceRuns c.toNat

/-- Space, tab and newline, the blanks that a scanning rule skips. -/
def isScanSpace (c : Char) : Bool := c == ' ' || c == '\t' || c == '\n'

theorem isNameChar_of_isUppercase {c : Char} (h : isUppercase c = true) : isNameChar c = true := by
  have hascending : ascendingFrom 0 alphabeticRuns = true := by decide +kernel
  have hcovers : coversAll alphabeticRuns uppercaseRuns = true := by decide +kernel
  obtain ⟨r, hr, hn⟩ := exists_contains_of_covers h
  obtain ⟨s, hs, hsn⟩ := exists_contains_of_coversAll hcovers hr hn
  have halphabetic : isAlphabetic c = true := covers_of_contains hascending hs hsn
  simp [isNameChar, halphabetic]

end Text
end Autocomplete
