import Autocomplete.Proofs.Outline.Openers

/-!
# Lines covered by a body

By the rule for outlines a line is dropped if it lies at least one level deeper than the opener of a
body, and no lone brace at the indentation of the opener has closed the body. But only the innermost
open body is looked at, both for the depth of a line and for what a brace closes. So a body that
opens inside another one at a different indentation stands in its way: lines of the outer body may
be kept, and a brace that should close the outer body may leave it open. Where no body does so, the
rule holds for every line.
-/

namespace Autocomplete
namespace Outline

open Text

/-- A line at least one level deeper than `opener`, up to which no line closes the body of
`opener`. -/
def LiesIn (width : Nat) (opener : List Char) (since : List (List Char)) (line : List Char) :
    Prop :=
  indentation opener + width ≤ indentation line ∧
    ∀ l ∈ since ++ [line], ¬ClosesAt (indentation opener) l

/-- The line lies in a body that an earlier kept line opened. -/
def Covered (width : Nat) (before : List (List Char)) (line : List Char) : Prop :=
  ∃ pre opener since, before = pre ++ opener :: since ∧
    (Opens width pre opener ∧ LiesIn width opener since line)

/-- Before any line closes the body of `opener`, another one opens at a different indentation. -/
def Crossed (width : Nat) (pre : List (List Char)) (opener : List Char)
    (since : List (List Char)) : Prop :=
  ∃ part inner later, since = part ++ inner :: later ∧
    ((∀ l ∈ part, ¬ClosesAt (indentation opener) l) ∧ Opens width (pre ++ opener :: part) inner ∧
      indentation inner ≠ indentation opener)

/-- Every body that opens while another one is open has its indentation. -/
def Uncrossed (width : Nat) (before : List (List Char)) : Prop :=
  ∀ pre opener since, before = pre ++ opener :: since → Opens width pre opener →
    ¬Crossed width pre opener since

instance (width : Nat) (opener : List Char) (since : List (List Char)) (line : List Char) :
    Decidable (LiesIn width opener since line) :=
  inferInstanceAs (Decidable (_ ∧ _))

instance (width : Nat) (before : List (List Char)) (line : List Char) :
    Decidable (Covered width before line) :=
  inferInstanceAs (Decidable (∃ _ _ _, _ ∧ _))

instance (width : Nat) (pre : List (List Char)) (opener : List Char) (since : List (List Char)) :
    Decidable (Crossed width pre opener since) :=
  inferInstanceAs (Decidable (∃ _ _ _, _ ∧ _))

theorem uncrossed_iff {width : Nat} {before : List (List Char)} :
    Uncrossed width before ↔ ¬∃ pre opener since, before = pre ++ opener :: since ∧
      (Opens width pre opener ∧ Crossed width pre opener since) := by
  simp only [Uncrossed, not_exists, not_and]

instance (width : Nat) (before : List (List Char)) : Decidable (Uncrossed width before) :=
  decidable_of_iff _ uncrossed_iff.symm

section

variable {width : Nat} {line opener : List Char} {before pre since : List (List Char)}

/-- A brace that should have closed a body that is still open came after another body opened. -/
theorem Lasts.crossed (h : Lasts width pre opener since)
    (hcloses : ¬∀ l ∈ since, ¬ClosesAt (indentation opener) l) :
    Crossed width pre opener since := by
  cases hfirst : since.find? fun l => decide (ClosesAt (indentation opener) l) with
  | none =>
    have hnone := List.find?_eq_none.mp hfirst
    exact absurd (fun l hl => by simpa using hnone l hl) hcloses
  | some closer =>
    obtain ⟨hcloser, part, later, rfl, hpart⟩ := List.find?_eq_some_iff_append.mp hfirst
    have hearlier : Lasts width pre opener (part ++ [closer]) := h.of_prefix ⟨later, by simp⟩
    obtain ⟨start, inner, rest, rfl, hne, hinner⟩ :=
      hearlier.exists_other (of_decide_eq_true hcloser)
    refine ⟨start, inner, rest ++ closer :: later, by simp, ?_, hinner.opened, hne⟩
    intro l hl
    simpa using hpart l (List.mem_append_left _ hl)

/-- A line of a body is dropped unless it is less than one level deeper than a body inside. -/
theorem Opens.drops_or_exists_deeper (h : Opens width pre opener)
    (hlies : LiesIn width opener since line) :
    Drops width (pre ++ opener :: since) line ∨
      ∃ part inner later, since = part ++ inner :: later ∧
        Opens width (pre ++ opener :: part) inner ∧ indentation opener < indentation inner ∧
        indentation line < indentation inner + width := by
  obtain ⟨hdeep, hclosers⟩ := hlies
  obtain ⟨hsince, hline⟩ := List.forall_mem_append.mp hclosers
  have hopened := h.openAfter_eq
  have hopen := (h.lasts_of_not_closesAt hsince).intact since List.prefix_rfl
  rw [hopened] at hopen
  have hsuffix := openAt_suffix (openAfter width (pre ++ opener :: since)) line
  obtain ⟨above, habove⟩ :=
    suffix_openAt_of_not_closesAt (hline line (List.mem_singleton.mpr rfl)) hopen
  rw [drops_iff, ← habove]
  cases above with
  | nil => exact .inl (by simpa [isInside] using hdeep)
  | cons indent above =>
    by_cases hinside : indent + width ≤ indentation line
    · exact .inl (by simpa [isInside] using hinside)
    · -- The innermost body is another one, and deeper than the line allows.
      rw [← habove, List.cons_append] at hsuffix
      obtain ⟨part, inner, later, hsplit, rfl, hinner⟩ :=
        exists_inner (by simp [hopened]) hsuffix
      exact .inr ⟨part, inner, later, hsplit, hinner.opened, by omega, by omega⟩

/-- A body that is open around a dropped line is not closed before it, or crossed. -/
theorem Drops.lies_or_crossed (h : Drops width before line) :
    ∃ pre opener since, before = pre ++ opener :: since ∧ Opens width pre opener ∧
      indentation opener + width ≤ indentation line ∧
      (LiesIn width opener since line ∨ Crossed width pre opener since) := by
  obtain ⟨pre, opener, since, hsplit, hlasts, hdeep, hline⟩ := exists_opener_of_drops h
  refine ⟨pre, opener, since, hsplit, hlasts.opened, hdeep, ?_⟩
  by_cases hsince : ∀ l ∈ since, ¬ClosesAt (indentation opener) l
  · exact .inl ⟨hdeep, List.forall_mem_append.mpr ⟨hsince, by simpa using hline⟩⟩
  · exact .inr (hlasts.crossed hsince)

theorem Uncrossed.drops_iff_covered (h : Uncrossed width before) :
    Drops width before line ↔ Covered width before line := by
  constructor
  · intro hdrops
    obtain ⟨pre, opener, since, hsplit, hopens, -, hlies | hcrossed⟩ := hdrops.lies_or_crossed
    · exact ⟨pre, opener, since, hsplit, hopens, hlies⟩
    · exact absurd hcrossed (h pre opener since hsplit hopens)
  · rintro ⟨pre, opener, since, rfl, hopens, hlies⟩
    rcases hopens.drops_or_exists_deeper hlies with
      hdrops | ⟨part, inner, later, rfl, hinner, hlt, -⟩
    · exact hdrops
    · have hpart : ∀ l ∈ part, ¬ClosesAt (indentation opener) l :=
        fun l hl => hlies.2 l (by simp [hl])
      have hcrossed : Crossed width pre opener (part ++ inner :: later) :=
        ⟨part, inner, later, rfl, hpart, hinner, Nat.ne_of_gt hlt⟩
      exact absurd hcrossed (h pre opener _ rfl hopens)

end

/-- A dropped line is deep enough in a body that is not closed, unless a body that opened inside at
a different indentation kept it from being closed. A line that lies in a body is dropped, unless it
is less than one level deeper than a body that opened inside and is deeper itself. So where no
bodies cross, exactly the lines that lie in a body are dropped. -/
theorem covered_lines_drop_unless_bodies_cross (width : Nat) (before : List (List Char))
    (line : List Char) :
    (Drops width before line → ∃ pre opener since, before = pre ++ opener :: since ∧
      Opens width pre opener ∧ indentation opener + width ≤ indentation line ∧
      (LiesIn width opener since line ∨ Crossed width pre opener since)) ∧
    (∀ pre opener since, before = pre ++ opener :: since → Opens width pre opener →
      LiesIn width opener since line → Drops width before line ∨
        ∃ part inner later, since = part ++ inner :: later ∧
          Opens width (pre ++ opener :: part) inner ∧ indentation opener < indentation inner ∧
          indentation line < indentation inner + width) ∧
    (Uncrossed width before → (Drops width before line ↔ Covered width before line)) := by
  refine ⟨Drops.lies_or_crossed, ?_, Uncrossed.drops_iff_covered⟩
  rintro pre opener since rfl hopens hlies
  exact hopens.drops_or_exists_deeper hlies

def classSource : List (List Char) :=
  ["class Shape \x7b", "    func area() \x7b", "        compute()", "    \x7d",
    "    init(size: Int) \x7b"].map String.toList

theorem covered_lines_drop_in_a_class :
    Uncrossed 4 classSource ∧ Covered 4 classSource "        self.size = size".toList ∧
      Drops 4 classSource "        self.size = size".toList := by
  have huncrossed : Uncrossed 4 classSource := by decide +kernel
  have hcovered : Covered 4 classSource "        self.size = size".toList := by decide +kernel
  obtain ⟨-, -, hrule⟩ :=
    covered_lines_drop_unless_bodies_cross 4 classSource "        self.size = size".toList
  exact ⟨huncrossed, hcovered, (hrule huncrossed).mpr hcovered⟩

/-- A body half a level deeper than the one around it. -/
def nestedSource : List (List Char) :=
  ["func outer() \x7b", "  func inner() \x7b"].map String.toList

/-- A function within which a brace stands at the indentation of an earlier, deeper function. -/
def shapeSource : List (List Char) :=
  ["class Shape \x7b", "    struct Part \x7b", "        func draw() { work() }", "    \x7d",
    "    func area() \x7b", "        if ready \x7b", "            work()", "        \x7d",
    "    \x7d", "    enum Kind \x7b", "        struct Size \x7b"].map String.toList

theorem crossing_bodies_break_the_rule :
    (Covered 4 nestedSource "    work()".toList ∧ ¬Drops 4 nestedSource "    work()".toList) ∧
      Drops 4 shapeSource "            let width: Int".toList ∧
      ¬Covered 4 shapeSource "            let width: Int".toList := by
  decide +kernel

end Outline
end Autocomplete
