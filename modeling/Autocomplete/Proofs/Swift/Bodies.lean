import Autocomplete.Proofs.Scan.Reading
import Autocomplete.Proofs.Text.Lines
import Autocomplete.Rules.Swift

/-!
# Declarations with a body

A declaration is written as a line that ends with an opening brace, the lines of its body and a line
with the closing brace. The rules for types read the name in the first line and everything up to the
closing brace, and then look for members in the body alone.
-/

namespace Autocomplete
namespace Swift

open Scan Text

/-- The lines of a declaration with a body. -/
def declaration (header : List Char) (inner : List (List Char)) : List (List Char) :=
  (header ++ [' ', '{']) :: (inner ++ [['}']])

def indented (line : List Char) : List Char := "    ".toList ++ line

/-- What stands between the braces of a declaration. -/
def between (inner : List (List Char)) : List Char := inner.flatMap ('\n' :: ·) ++ ['\n']

theorem between_nil : between [] = ['\n'] := rfl

theorem between_cons (line : List Char) (inner : List (List Char)) :
    between (line :: inner) = '\n' :: (line ++ between inner) := by
  simp [between]

theorem head_between {p : Char → Bool} (hp : p '\n' = false) (inner : List (List Char))
    (left : List Char) : (between inner ++ left).head?.any p = false := by
  cases inner with
  | nil => exact hp
  | cons line inner =>
    rw [between_cons]
    exact hp

theorem unlines_declaration (header : List Char) (inner : List (List Char)) :
    unlines (declaration header inner) =
      header ++ ' ' :: '{' :: (between inner ++ ['}']) := by
  rw [declaration, unlines_cons, between, List.flatMap_append]
  simp

theorem balanced_between {inner : List (List Char)}
    (h : ∀ line ∈ inner, '{' ∉ line ∧ '}' ∉ line) :
    Balanced '{' '}' (between inner) := by
  apply balanced_of_not_mem
  · simpa [between] using fun line hline => (h line hline).1
  · simpa [between] using fun line hline => (h line hline).2

/-- The name of a declaration and the brace that opens its body are read, and the next step reads
from the brace on. -/
theorem reads_header (name : Identifier) {blank inside left left' : List Char} {rest : List Step}
    {found : List Match} (hblank : blank.all isScanSpace = true)
    (hleft : left' <:+ inside ++ left) (hne : inside ++ left ≠ [])
    (h : Reads rest ('{' :: (inside ++ left)) found left') :
    Reads (Step.spaces :: Step.word.saving :: Step.literal "\x7b" :: Step.backward 1 :: rest)
      (blank ++ (name.chars ++ ' ' :: '{' :: (inside ++ left)))
      (found.map (.text name.text :: ·)) left' := by
  have hbrace : (Probe.literal "\x7b".toList).Hits [' '] ([] ++ ['{']) (inside ++ left) :=
    Probe.hits_of_not_mem _ rfl (by decide) _
  have hopen := Reads.reread hbrace hne h hleft
  have hname := Reads.word name rfl hopen
  exact Reads.spaces hblank (name.head_append (fun _ => isScanSpace_of_isNameChar) _)
    (name.append_ne_nil _) hname

/-- A declaration is read to the end of its body, in which the steps after the brackets search. -/
theorem reads_body (name : Identifier) {blank : List Char} {inner : List (List Char)} {s : Step}
    {rest : List Step} {found : List Match} (hblank : blank.all isScanSpace = true)
    (hinner : ∀ line ∈ inner, '{' ∉ line ∧ '}' ∉ line)
    (hback : ∀ t ∈ s :: rest, t.probe.movesBack = false)
    (h : Finds (s :: rest) ('{' :: (between inner ++ ['}'])) found) (keyword : Step)
    (left : List Char) :
    Reads (insideBody keyword (s.repeating :: rest)).tail
      (blank ++ (name.chars ++ ' ' :: '{' :: (between inner ++ '}' :: left)))
      (found.map (.text name.text :: ·)) left := by
  have hgroup : (Probe.bracket '{' '}').Hits []
      ('{' :: (between inner ++ ['}'])) left :=
    Probe.hits_bracket (balanced_between hinner) (by decide)
  have hentered := Reads.entering hgroup (by simp) hback h
  rw [List.nil_append, List.cons_append, List.append_assoc, List.singleton_append] at hentered
  have hleft : left <:+ between inner ++ '}' :: left :=
    (List.suffix_cons _ left).trans (List.suffix_append _ _)
  exact reads_header name hblank hleft (by simp) hentered

def fieldSteps : List Step :=
  [(Step.oneOf ["let", "var"]).repeating, Step.spaces, Step.word.saving]

theorem grouped_map_ofPair (pairs : List (String × String)) :
    grouped (pairs.map Match.ofPair) = .ofPairs pairs := by
  have hlength : (pairs.map Match.ofPair).filter (·.length == 2) = pairs.map Match.ofPair := by
    rw [List.filter_eq_self]
    intro m hm
    obtain ⟨pair, -, rfl⟩ := List.mem_map.mp hm
    rfl
  rw [grouped, hlength, Match.filterMap_pair?_map_ofPair]

end Swift
end Autocomplete
