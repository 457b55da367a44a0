/-!
# Windows of a text

A window is a half-open range of character offsets. Scanning one window ends in a hit, in an anchor
(the scan goes on from another offset and nothing was matched) or in a miss, which tells where a
search may be taken up again.
-/

namespace Autocomplete
namespace Scan

/-- The offsets from `start` up to, but not including, `stop`. -/
structure Window where
  start : Nat
  stop : Nat
  deriving DecidableEq, Repr

namespace Window

/-- The number of characters covered, zero for a reversed window. -/
def size (w : Window) : Nat := w.stop - w.start

def isEmpty (w : Window) : Bool := w.stop ≤ w.start

/-- The window is not reversed and ends inside a text of `length` characters. -/
def Within (w : Window) (length : Nat) : Prop := w.start ≤ w.stop ∧ w.stop ≤ length

instance (w : Window) (length : Nat) : Decidable (w.Within length) :=
  inferInstanceAs (Decidable (_ ∧ _))

/-- The characters of `text` in the window, as far as the text reaches. -/
def slice (w : Window) (text : Array Char) : Array Char := text.extract w.start w.stop

theorem size_slice {w : Window} {text : Array Char} (h : w.Within text.size) :
    (w.slice text).size = w.size := by
  have := h.2
  simp only [slice, size, Array.size_extract]
  omega

end Window

/-- The outcome of looking for one thing in one window. -/
inductive Outcome where
  | hit (matched : Window)
  | anchor (offset : Nat)
  | miss (resume : Nat)
  deriving DecidableEq, Repr

namespace Outcome

def isMatch : Outcome → Bool
  | miss _ => false
  | _ => true

def window? : Outcome → Option Window
  | hit matched => some matched
  | _ => none

end Outcome

end Scan
end Autocomplete
