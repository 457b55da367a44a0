import Autocomplete.Proofs.Scan.Bounds
import Autocomplete.Proofs.Scan.Bracket
import Autocomplete.Proofs.Scan.Places
import Autocomplete.Rules.Swift

/-!
# Signatures of functions

A signature is the keyword, a name and a parameter list in brackets, one after the other. The rule
for functions reads each keyword up to the first part that is missing, and to the end of the text
where the parameter list is not closed, before it looks for the next one. What stands in between is
hidden: the signatures that are reported are those that no keyword before them was read across.
-/

namespace Autocomplete
namespace Swift

open Scan Text

def keyword : List Char := "func".toList

/-- A place in a text with the name and the bracketed parameter list that belong to it. -/
structure Signature where
  start : Nat
  name : Window
  parameters : Window
  deriving DecidableEq, Repr

namespace Signature

/-- The keyword, any number of spaces, a whole word, any number of spaces and a balanced group stand
one after the other. -/
structure Occurs (text : Array Char) (s : Signature) : Prop where
  keyword : occursAt text keyword s.start text.size = true
  gap : AllIn text isScanSpace ⟨s.start + Swift.keyword.length, s.name.start⟩
  name : AllIn text isNameChar s.name
  nonempty : s.name.start < s.name.stop
  whole : charAtSatisfies text isNameChar s.name.stop = false
  laterGap : AllIn text isScanSpace ⟨s.name.stop, s.parameters.start⟩
  parameters : IsGroup text '(' ')' s.parameters

def captures (text : Array Char) (s : Signature) : Match :=
  [s.name.captured text, s.parameters.captured text]

end Signature

/-- The word, possibly empty, after the keyword at `start` and the spaces that follow it. -/
def nameAt (text : Array Char) (start : Nat) : Window :=
  let first := runEnd (charAtSatisfies text isScanSpace) (start + keyword.length) text.size
  ⟨first, runEnd (charAtSatisfies text isNameChar) first text.size⟩

def listAt (text : Array Char) (start : Nat) : Nat :=
  runEnd (charAtSatisfies text isScanSpace) (nameAt text start).stop text.size

/-- The end of the parameter list. -/
def listEnd? (text : Array Char) (start : Nat) : Option Nat :=
  groupEnd? text '(' ')' (listAt text start) text.size

def signatureAt? (text : Array Char) (start : Nat) : Option Signature :=
  if (nameAt text start).stop = (nameAt text start).start then none
  else (listEnd? text start).map fun stop => ⟨start, nameAt text start, ⟨listAt text start, stop⟩⟩

/-- How far the rule reads after the keyword at `start`: to the end of a signature, else to the part
that is missing, and to the end of the text where a parameter list is opened and not closed. -/
def reach (text : Array Char) (start : Nat) : Nat :=
  if (nameAt text start).stop = (nameAt text start).start then (nameAt text start).start
  else (listEnd? text start).getD (groupMissed text '(' (listAt text start) text.size)

/-- The places of the keyword from which the rule reads on, from left to right. -/
def tried (text : Array Char) : List Nat :=
  triedPlaces (occursAt text keyword · text.size) (reach text) 0 text.size

/-- The signatures that are found at the keywords tried. -/
def reported (text : Array Char) : List Signature := (tried text).filterMap (signatureAt? text)

/-- Every signature that does not begin inside an earlier reported one is reported. -/
def NothingHidden (text : Array Char) : Prop :=
  ∀ s : Signature, s.Occurs text →
    (∀ r ∈ reported text, r.start < s.start → r.parameters.stop ≤ s.start) → s ∈ reported text

variable {text : Array Char} {start : Nat}

theorem le_nameAt_start (text : Array Char) (start : Nat) :
    start + keyword.length ≤ (nameAt text start).start :=
  le_runEnd _ _ _

theorem nameAt_le (text : Array Char) (start : Nat) :
    (nameAt text start).start ≤ (nameAt text start).stop :=
  le_runEnd _ _ _

theorem le_listAt (text : Array Char) (start : Nat) :
    (nameAt text start).stop ≤ listAt text start :=
  le_runEnd _ _ _

theorem nameAt_stop_le (h : start + keyword.length ≤ text.size) :
    (nameAt text start).stop ≤ text.size :=
  runEnd_le (runEnd_le h)

theorem listAt_le (h : start + keyword.length ≤ text.size) : listAt text start ≤ text.size :=
  runEnd_le (nameAt_stop_le h)

theorem listEnd?_eq_some_iff {stop : Nat} :
    listEnd? text start = some stop ↔ IsGroup text '(' ')' ⟨listAt text start, stop⟩ := by
  rw [listEnd?, groupEnd?_eq_some_iff (by decide) (Nat.le_refl _)]
  exact ⟨And.right, fun h => ⟨h.within, h⟩⟩

theorem le_listReach (h : start + keyword.length ≤ text.size) :
    listAt text start ≤
      (listEnd? text start).getD (groupMissed text '(' (listAt text start) text.size) := by
  cases hend : listEnd? text start with
  | none =>
    have hlist := listAt_le h
    rw [Option.getD_none, groupMissed]
    split
    · exact hlist
    · exact Nat.le_refl _
  | some stop => exact Nat.le_of_lt (listEnd?_eq_some_iff.mp hend).nonempty

theorem le_reach (h : start + keyword.length ≤ text.size) :
    start + keyword.length ≤ reach text start := by
  have hstart := le_nameAt_start text start
  unfold reach
  split
  · exact hstart
  · have hname := nameAt_le text start
    have hlist := le_listAt text start
    have hreach := le_listReach h
    omega

theorem follow_list (text : Array Char) (before : List Capture) (start : Nat) :
    follow [(Step.bracket '(' ')').saving] text before ⟨listAt text start, text.size⟩ =
      ((listEnd? text start).toList.map fun stop =>
          before ++ [Window.captured ⟨listAt text start, stop⟩ text],
        (listEnd? text start).getD (groupMissed text '(' (listAt text start) text.size)) := by
  cases hend : listEnd? text start with
  | none => rw [follow_missing_group text before [] hend]; rfl
  | some stop =>
    rw [follow_group text before [] hend, follow_nil]
    simp

/-- What the rule does after a keyword: it finds the signature there, if it is one, and goes on from
the place up to which it has read. -/
theorem follow_keyword (h : start + keyword.length ≤ text.size) :
    follow functions.steps.tail text [] ⟨start + keyword.length, text.size⟩ =
      ((signatureAt? text start).toList.map (Signature.captures text), reach text start) := by
  have hsteps : functions.steps.tail =
      [Step.spaces, Step.word.saving, Step.spaces, (Step.bracket '(' ')').saving] := rfl
  have hspaces : runEnd (charAtSatisfies text isScanSpace) (start + keyword.length) text.size =
      (nameAt text start).start := rfl
  have hword : runEnd (charAtSatisfies text isNameChar) (nameAt text start).start text.size =
      (nameAt text start).stop := rfl
  have hlater : runEnd (charAtSatisfies text isScanSpace) (nameAt text start).stop text.size =
      listAt text start := rfl
  rw [hsteps, follow_spaces text [] _ _ h hspaces]
  unfold signatureAt? reach
  by_cases hempty : (nameAt text start).stop = (nameAt text start).start
  · rw [hempty] at hword
    rw [if_pos hempty, if_pos hempty, follow_missing_word text [] _ hword]
    simp
  · have hname := nameAt_le text start
    have hstop := nameAt_stop_le h
    have hlist := le_listAt text start
    have hreach := le_listReach h
    rw [if_neg hempty, if_neg hempty, follow_word text [] _ (by omega) hword hempty,
      follow_spaces text _ _ _ hstop hlater, follow_list]
    simp only [Nat.max_eq_left hreach, Nat.max_eq_left (Nat.le_trans hlist hreach),
      Nat.max_eq_left (Nat.le_trans hname (Nat.le_trans hlist hreach))]
    cases listEnd? text start <;> rfl

theorem findAll_functions (text : String) :
    functions.findAll text =
      (reported text.toList.toArray).map (Signature.captures text.toList.toArray) := by
  have hsteps : functions.steps =
      ({ probe := .literal keyword } : Step).repeating :: functions.steps.tail := rfl
  have hkeyword : keyword ≠ [] := by decide
  rw [Rule.findAll, searchAll, hsteps]
  exact search_literal hkeyword
    (fun place hplace => follow_keyword (add_length_le_of_occursAt hplace))
    (fun place hplace => Nat.max_eq_left (le_reach (add_length_le_of_occursAt hplace)))

theorem occurs_of_signatureAt? (hkeyword : occursAt text keyword start text.size = true)
    {s : Signature} (h : signatureAt? text start = some s) : s.start = start ∧ s.Occurs text := by
  unfold signatureAt? at h
  split at h
  · simp at h
  · rename_i hname
    obtain ⟨stop, hend, rfl⟩ := Option.map_eq_some_iff.mp h
    have hstart := add_length_le_of_occursAt hkeyword
    refine ⟨rfl, hkeyword, allIn_runEnd hstart, allIn_runEnd (runEnd_le hstart), ?_,
      charAtSatisfies_runEnd, allIn_runEnd (nameAt_stop_le hstart), listEnd?_eq_some_iff.mp hend⟩
    exact Nat.lt_of_le_of_ne (nameAt_le text start) (Ne.symm hname)

theorem Signature.Occurs.signatureAt?_eq {s : Signature} (h : s.Occurs text) :
    signatureAt? text s.start = some s := by
  have hname := h.name.2 s.name.start (Nat.le_refl _) h.nonempty
  have hlist : s.parameters.start ≤ text.size :=
    Nat.le_of_lt (Nat.lt_of_lt_of_le h.parameters.nonempty h.parameters.within)
  have hspace : charAtSatisfies text isScanSpace s.parameters.start = false := by
    simp only [charAtSatisfies, h.parameters.opens]
    decide
  have hfirst := h.gap.runEnd_eq (not_space_of_charAtSatisfies hname)
    (Nat.le_of_lt (lt_size_of_charAtSatisfies hname))
  have hnameAt : nameAt text s.start = s.name := by
    rw [nameAt, hfirst, h.name.runEnd_eq h.whole (h.name.stop_le_size h.nonempty)]
  have hlistAt : listAt text s.start = s.parameters.start := by
    rw [listAt, hnameAt]
    exact h.laterGap.runEnd_eq hspace hlist
  have hend : listEnd? text s.start = some s.parameters.stop := by
    rw [listEnd?_eq_some_iff, hlistAt]
    exact h.parameters
  rw [signatureAt?, hnameAt, hlistAt, if_neg (Nat.ne_of_gt h.nonempty), hend]
  rfl

theorem reach_of_signatureAt? {s : Signature} (h : signatureAt? text start = some s) :
    reach text start = s.parameters.stop := by
  unfold signatureAt? at h
  split at h
  · simp at h
  · rename_i hname
    obtain ⟨stop, hend, rfl⟩ := Option.map_eq_some_iff.mp h
    rw [reach, if_neg hname, hend, Option.getD_some]

theorem mem_tried_iff {place : Nat} :
    place ∈ tried text ↔ occursAt text keyword place text.size = true ∧
      ∀ earlier ∈ tried text, earlier < place → reach text earlier ≤ place :=
  mem_triedPlaces_literal_iff (by decide)
    fun _ hplace => le_reach (add_length_le_of_occursAt hplace)

theorem mem_reported_iff_tried {s : Signature} :
    s ∈ reported text ↔ s.start ∈ tried text ∧ signatureAt? text s.start = some s := by
  rw [reported, List.mem_filterMap]
  constructor
  · rintro ⟨place, hplace, hs⟩
    obtain ⟨rfl, -⟩ := occurs_of_signatureAt? (mem_tried_iff.mp hplace).1 hs
    exact ⟨hplace, hs⟩
  · rintro ⟨hplace, hs⟩
    exact ⟨s.start, hplace, hs⟩

/-- The signatures reported are those that no keyword before them was read across. -/
theorem mem_reported_iff {s : Signature} :
    s ∈ reported text ↔ s.Occurs text ∧
      ∀ place ∈ tried text, place < s.start → reach text place ≤ s.start := by
  rw [mem_reported_iff_tried]
  constructor
  · rintro ⟨hplace, hs⟩
    obtain ⟨hkeyword, hhidden⟩ := mem_tried_iff.mp hplace
    exact ⟨(occurs_of_signatureAt? hkeyword hs).2, hhidden⟩
  · rintro ⟨hoccurs, hhidden⟩
    exact ⟨mem_tried_iff.mpr ⟨hoccurs.keyword, hhidden⟩, hoccurs.signatureAt?_eq⟩

/-- A signature is hidden by a keyword that begins none, or else it lies inside a reported one. -/
theorem nothingHidden_iff :
    NothingHidden text ↔ ∀ place ∈ tried text, signatureAt? text place = none →
      ∀ s : Signature, s.Occurs text → place < s.start → reach text place ≤ s.start := by
  constructor
  · intro hall place hplace hnone s hoccurs hlt
    by_cases hhidden : reach text place ≤ s.start
    · exact hhidden
    · -- No reported signature reaches across `s` as well, because its keyword was tried too.
      have hmem : s ∈ reported text := by
        refine hall s hoccurs fun r hr hrs => ?_
        obtain ⟨hrtried, hrsome⟩ := mem_reported_iff_tried.mp hr
        rw [← reach_of_signatureAt? hrsome]
        rcases Nat.lt_trichotomy r.start place with hbefore | heq | hafter
        · have hreach := (mem_tried_iff.mp hplace).2 r.start hrtried hbefore
          omega
        · rw [heq, hnone] at hrsome
          exact absurd hrsome.symm (Option.some_ne_none r)
        · have hreach := (mem_tried_iff.mp hrtried).2 place hplace hafter
          omega
      exact (mem_reported_iff.mp hmem).2 place hplace hlt
  · intro hnone s hoccurs hinside
    refine mem_reported_iff.mpr ⟨hoccurs, fun place hplace hlt => ?_⟩
    cases hsignature : signatureAt? text place with
    | none => exact hnone place hplace hsignature s hoccurs hlt
    | some r =>
      obtain ⟨rfl, -⟩ := occurs_of_signatureAt? (mem_tried_iff.mp hplace).1 hsignature
      rw [reach_of_signatureAt? hsignature]
      exact hinside r (mem_reported_iff_tried.mpr ⟨hplace, hsignature⟩) hlt

/-- The functions found in a text are the signatures that no keyword tried before them was read
across, and a keyword is tried on the same terms. So a signature that lies in no reported one is
hidden just where it begins in what was read after a keyword that begins none: up to the missing
part, or to the end of the text after a parameter list that is not closed. -/
theorem signatures_hidden_by_unfinished_ones (text : String) :
    let chars := text.toList.toArray
    functions.findAll text = (reported chars).map (Signature.captures chars) ∧
    (∀ place, place ∈ tried chars ↔ occursAt chars keyword place chars.size = true ∧
      ∀ earlier ∈ tried chars, earlier < place → reach chars earlier ≤ place) ∧
    (∀ s : Signature, s ∈ reported chars ↔ s.Occurs chars ∧
      ∀ place ∈ tried chars, place < s.start → reach chars place ≤ s.start) ∧
    (NothingHidden chars ↔ ∀ place ∈ tried chars, signatureAt? chars place = none →
      ∀ s : Signature, s.Occurs chars → place < s.start → reach chars place ≤ s.start) :=
  ⟨findAll_functions text, fun _ => mem_tried_iff, fun _ => mem_reported_iff, nothingHidden_iff⟩

def unclosedList : String := "func a(\nfunc b(x: Int) {}"

theorem unclosed_list_hides_the_next_signature :
    functions.findAll unclosedList = [] ∧
      (⟨8, ⟨13, 14⟩, ⟨14, 22⟩⟩ : Signature).Occurs unclosedList.toList.toArray ∧
      ¬NothingHidden unclosedList.toList.toArray := by
  have hreported : reported unclosedList.toList.toArray = [] := by decide +kernel
  have hkeyword : occursAt unclosedList.toList.toArray keyword 8 25 = true := by decide +kernel
  have hsignature : signatureAt? unclosedList.toList.toArray 8 =
      some ⟨8, ⟨13, 14⟩, ⟨14, 22⟩⟩ := by decide +kernel
  have hoccurs := (occurs_of_signatureAt? hkeyword hsignature).2
  have hnone : ∀ r, r ∉ reported unclosedList.toList.toArray := by
    rw [hreported]
    exact fun r => List.not_mem_nil
  refine ⟨by rw [findAll_functions, hreported, List.map_nil], hoccurs, ?_⟩
  intro hall
  exact hnone _ (hall _ hoccurs fun r hr => absurd hr (hnone r))

end Swift
end Autocomplete
