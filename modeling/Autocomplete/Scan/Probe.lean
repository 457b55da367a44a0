import Autocomplete.Scan.Position
import Autocomplete.Scan.Window
import Autocomplete.Text.Classes

/-!
# Probes

A probe looks for one thing in a window of a text: a literal, a run of characters of one kind, a
balanced bracket group. It never reads at or past the end of its window. Only the two probes that
move back, `backward` and `lineStart`, look before its start.
-/

namespace Autocomplete
namespace Scan

open Text

inductive CharKind where
  | word
  | space
  | noneOf (excluded : List Char)
  | capitalized
  | path
  deriving DecidableEq, Repr

namespace CharKind

/-- Whether `c` belongs to a run of the kind, as its first character or as a later one. -/
def accepts : CharKind → (isFirst : Bool) → Char → Bool
  | word, _, c => isNameChar c
  | space, _, c => isScanSpace c
  | noneOf excluded, _, c => !excluded.contains c
  | capitalized, true, c => isUppercase c
  | capitalized, false, c => isNameChar c
  | path, _, c => isPathChar c

end CharKind

inductive Probe where
  /-- The first occurrence of a literal. -/
  | literal (text : List Char)
  /-- The first place where one of the literals occurs; the earlier in the list wins. -/
  | oneOf (texts : List (List Char))
  /-- One of the literals, at the start of the window only. -/
  | oneOfAtStart (texts : List (List Char))
  /-- The longest run of characters of one kind at the start of the window. -/
  | run (kind : CharKind) (mayBeEmpty : Bool)
  /-- A nonempty word after any number of spaces. -/
  | spacedWord
  /-- A balanced group that opens at the start of the window. -/
  | bracket (opening closing : Char)
  /-- The offset `count` characters before the start of the window. -/
  | backward (count : Nat)
  /-- The start of the line that the window starts in. -/
  | lineStart
  /-- The hit of another probe with its end moved by `delta`, inside the window. -/
  | shifted (inner : Probe) (delta : Int)
  /-- The second probe where the first one misses. -/
  | orElse (first second : Probe)
  deriving DecidableEq, Repr

/-- Whether `literal` occurs at `offset` and ends by `stop`. -/
def occursAt (text : Array Char) : (literal : List Char) → (offset stop : Nat) → Bool
  | [], offset, stop => offset ≤ stop
  | c :: rest, offset, stop =>
    offset < stop && text[offset]? == some c && occursAt text rest (offset + 1) stop

def charAtSatisfies (text : Array Char) (p : Char → Bool) (offset : Nat) : Bool :=
  text[offset]?.any p

/-- The offset after the character that closes the `depth` groups open at `offset`, if it is one of
the next `count` characters. -/
def closingEnd? (text : Array Char) (opening closing : Char) :
    (depth offset count : Nat) → Option Nat
  | _, _, 0 => none
  | depth, offset, count + 1 =>
    if text[offset]? = some opening then
      closingEnd? text opening closing (depth + 1) (offset + 1) count
    else if text[offset]? = some closing then
      if depth ≤ 1 then some (offset + 1)
      else closingEnd? text opening closing (depth - 1) (offset + 1) count
    else closingEnd? text opening closing depth (offset + 1) count

/-- The offset just after the last newline before `offset`, or the start of the text. -/
def lineStartBefore (text : Array Char) (offset : Nat) : Nat :=
  runStart (fun i => text[i]? != some '\n') offset

namespace Outcome

/-- A hit whose end is moved by `delta`, kept between its start and `stop`. -/
def shift (delta : Int) (stop : Nat) : Outcome → Outcome
  | hit w => hit ⟨w.start, max w.start (min (w.stop + delta).toNat (max stop w.start))⟩
  | other => other

end Outcome

namespace Probe

/-- The first place of the window where one of the literals occurs, with the first such literal. -/
def firstOf (texts : List (List Char)) (text : Array Char) (w : Window) : Outcome :=
  let literalAt (offset : Nat) := texts.find? (occursAt text · offset w.stop)
  match firstIn? (fun offset => (literalAt offset).isSome) w.start w.stop with
  | some offset => .hit ⟨offset, offset + ((literalAt offset).getD []).length⟩
  | none => .miss w.stop

def scan (text : Array Char) : Probe → Window → Outcome
  | literal l, w =>
    match firstIn? (occursAt text l · w.stop) w.start w.stop with
    | some offset => .hit ⟨offset, offset + l.length⟩
    | none => .miss w.stop
  | oneOf ls, w => firstOf ls text w
  | oneOfAtStart ls, w =>
    match ls.find? (occursAt text · w.start w.stop) with
    | some l => .hit ⟨w.start, w.start + l.length⟩
    | none => .miss w.start
  | run kind mayBeEmpty, w =>
    let isPart (i : Nat) := charAtSatisfies text (kind.accepts (i == w.start)) i
    let stop := runEnd isPart w.start w.stop
    if stop = w.start && !mayBeEmpty then .miss w.start else .hit ⟨w.start, stop⟩
  | spacedWord, w =>
    let start := runEnd (charAtSatisfies text (· == ' ')) w.start w.stop
    let stop := runEnd (charAtSatisfies text isNameChar) start w.stop
    if stop = start then .miss start else .hit ⟨start, stop⟩
  | bracket opening closing, w =>
    if w.start < w.stop && text[w.start]? = some opening then
      match closingEnd? text opening closing 1 (w.start + 1) (w.stop - (w.start + 1)) with
      | some stop => .hit ⟨w.start, stop⟩
      | none => .miss w.stop
    else .miss w.start
  | backward count, w => .anchor (w.start - count)
  | lineStart, w => .anchor (lineStartBefore text (min w.start text.size))
  | shifted inner delta, w => (inner.scan text w).shift delta w.stop
  | orElse first second, w =>
    match first.scan text w with
    | .miss _ => second.scan text w
    | found => found

theorem find?_singleton_occursAt (l : List Char) (text : Array Char) (offset stop : Nat) :
    [l].find? (occursAt text · offset stop) =
      if occursAt text l offset stop then some l else none := by
  rw [List.find?_cons]
  cases occursAt text l offset stop <;> rfl

/-- The search for a literal is the search for the only one of a list. -/
theorem scan_literal (l : List Char) (text : Array Char) (w : Window) :
    (literal l).scan text w = (oneOf [l]).scan text w := by
  have hplace : (fun offset => ([l].find? (occursAt text · offset w.stop)).isSome) =
      (occursAt text l · w.stop) := by
    funext offset
    rw [find?_singleton_occursAt]
    cases occursAt text l offset w.stop <;> rfl
  rw [scan, scan, firstOf]
  dsimp only
  rw [hplace]
  cases hfirst : firstIn? (occursAt text l · w.stop) w.start w.stop with
  | none => rfl
  | some offset =>
    have hoccurs : occursAt text l offset w.stop = true := (firstIn?_eq_some hfirst).2.2.1
    dsimp only
    rw [find?_singleton_occursAt, if_pos hoccurs, Option.getD_some]

end Probe

end Scan
end Autocomplete
