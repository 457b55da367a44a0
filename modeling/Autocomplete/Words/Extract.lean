import Autocomplete.Scan.Probe
import Autocomplete.Scan.Sweep
import Autocomplete.Settings
import Autocomplete.Text.Casing
import Autocomplete.Text.Distinct

/-!
# Words of a text

The words that start with what is typed, nearest to the cursor first. The word under the cursor is
left out.
-/

namespace Autocomplete
namespace Words

open Scan Text

def windows (text : Array Char) : List Window :=
  (sweep (fun pos =>
    match (Probe.run .word false).scan text ⟨pos, text.size⟩ with
    | .hit w => ([w], w.stop)
    | _ => ([], pos)) 0 text.size).1

def touches (cursor : Option Nat) (w : Window) : Bool :=
  cursor.any fun offset => w.start ≤ offset && offset ≤ w.stop

def distance (cursor : Option Nat) (w : Window) : Nat :=
  match cursor with
  | some offset => if w.stop ≤ offset then offset - w.stop else w.start - offset
  | none => 0

structure Candidate where
  distance : Nat
  word : String
  deriving DecidableEq, Repr

/-- The words that start with `typed` and do not touch the cursor, from left to right. -/
def candidates (text : Array Char) (typed : String) (cursor : Option Nat) : List Candidate :=
  (((windows text).filter (!touches cursor ·)).map fun w =>
    ⟨distance cursor w, String.ofList (w.slice text).toList⟩).filter
      (startsWithIgnoringCase typed ·.word)

/-- The words of a text that start with `typed`, whatever the case, each once and the nearest to
the cursor first. -/
def extract (text typed : String) (cursor : Option Nat) : List String :=
  distinct (((candidates text.toList.toArray typed cursor).mergeSort
    fun a b => a.distance ≤ b.distance).map (·.word))

/-- At most the configured number of words, without those that are too short or too long. -/
def limit (settings : Settings) (words : List String) : List String :=
  (words.take settings.maxWordsPerDocument).filter (settings.acceptsWordSize ·.length)

end Words
end Autocomplete
