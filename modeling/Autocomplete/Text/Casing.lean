import Autocomplete.Text.Classes
import Autocomplete.Text.Property.LowercaseMap

/-!
# Lowercase text

Full lowercase conversion. Every character is replaced by its counterpart on its own, except a
capital sigma, which becomes a final sigma where it ends a word: the nearest character before it
that case does not ignore is cased, and the nearest one after it is not.
-/

namespace Autocomplete
namespace Text

/-- The lowercase counterpart of one character, which takes two code points for `İ`. -/
def lowerChar (c : Char) : List Char :=
  if c.toNat = 0x130 then ['i', '\u0307']
  else match shift? lowercaseShifts c.toNat with
    | some n => [Char.ofNat n]
    | none => [c]

/-- Whether the first character that case does not ignore is cased. -/
def reachesCased (cs : List Char) : Bool :=
  match cs.dropWhile isCaseIgnorable with
  | c :: _ => isCased c
  | [] => false

/-- Whether a capital sigma between `before`, read backwards, and `after` ends its word. -/
def endsWord (before after : List Char) : Bool :=
  reachesCased before && !reachesCased after

/-- The lowercase form of the text that follows `before`, which is read backwards. -/
def lowercaseAfter : (before : List Char) → List Char → List Char
  | _, [] => []
  | before, c :: rest =>
    (if c = 'Σ' then (if endsWord before rest then ['ς'] else ['σ']) else lowerChar c) ++
      lowercaseAfter (c :: before) rest

def lowercase (s : String) : String := String.ofList (lowercaseAfter [] s.toList)

def startsWithIgnoringCase (start s : String) : Bool :=
  (lowercase start).toList.isPrefixOf (lowercase s).toList

theorem startsWithIgnoringCase_self (s : String) : startsWithIgnoringCase s s = true := by
  simp [startsWithIgnoringCase]

end Text
end Autocomplete
