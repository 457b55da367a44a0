/-!
# Settings

The limits that keep completion cheap on large or numerous documents.
-/

namespace Autocomplete

structure Settings where
  /-- The length of the shortest word offered. -/
  minWordSize : Nat := 4
  /-- The length of the longest word offered. -/
  maxWordSize : Nat := 80
  /-- How many documents are consulted, the active one included. -/
  maxDocuments : Nat := 40
  /-- How many candidate words are taken from one document. -/
  maxWordsPerDocument : Nat := 10000
  /-- The time allowed for repairing cut off words in one document, in milliseconds. -/
  repairBudget : Nat := 40
  /-- The length, after comments are dropped, from which on a document counts as large. -/
  largeDocument : Nat := 200000
  /-- The number of spaces of one level of indentation. -/
  indentWidth : Nat := 4
  /-- The number of lines consulted for the type of a variable. -/
  contextLines : Nat := 30
  deriving DecidableEq, Repr

namespace Settings

def acceptsWordSize (s : Settings) (size : Nat) : Bool :=
  s.minWordSize ≤ size && size ≤ s.maxWordSize

/-- After which words the repair of one document has spent its budget: those at which more
nanoseconds have passed on its clock. -/
def spentOn (s : Settings) (clock : Nat → Nat) (index : Nat) : Bool :=
  s.repairBudget * 1000000 < clock index

/-- The schedule of a clock that has passed one nanosecond. -/
def repairSpent (s : Settings) : Nat → Bool := s.spentOn fun _ => 1

/-- On such a clock a budget of zero is spent by the first word, and any other lasts. -/
theorem repairSpent_iff {s : Settings} {index : Nat} :
    s.repairSpent index = true ↔ s.repairBudget = 0 := by
  simp only [repairSpent, spentOn, decide_eq_true_eq]
  omega

theorem acceptsWordSize_iff {s : Settings} {size : Nat} :
    s.acceptsWordSize size = true ↔ s.minWordSize ≤ size ∧ size ≤ s.maxWordSize := by
  simp [acceptsWordSize]

end Settings

end Autocomplete
