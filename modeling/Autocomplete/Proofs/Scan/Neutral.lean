import Autocomplete.Proofs.Scan.Bounds
import Autocomplete.Proofs.Scan.Looping

/-!
# A step that moves nowhere

Moving back by no characters succeeds at once and changes nothing, so that one expects such a step
to make no difference to a rule. Before another step it makes none. At the end of a rule it asks for
a character: no step is tried in an empty window, and the matches that leave an empty window are
lost.
-/

namespace Autocomplete
namespace Scan

/-- One attempt of a step at `pos`, where the steps after it yield each complete match with the
window that it leaves. -/
def Step.attemptLeaving (s : Step) (next : List Capture → Window → List (Match × Window) × Nat)
    (text : Array Char) (before : List Capture) (stop pos : Nat) : List (Match × Window) × Nat :=
  match s.probe.scan text ⟨pos, stop⟩ with
  | .miss resume => ([], resume)
  | .hit hit =>
    let (found, reached) :=
      next (before ++ s.kept (record s) text hit) (s.windowAfter hit stop)
    (found, max reached hit.stop)
  | .anchor offset =>
    let (found, reached) := next before (s.windowAt offset stop)
    (found, max reached offset)

/-- Follows `steps` as `follow` does. Each complete match comes with the window that it leaves. -/
def followLeaving (text : Array Char) : (steps : List Step) → (before : List Capture) → Window →
    List (Match × Window) × Nat
  | [], before, w => ([(before, w)], w.start)
  | step :: rest, before, w =>
    let attempt := step.attemptLeaving (followLeaving text rest) text before w.stop
    if step.looping then sweep attempt w.start w.stop
    else if w.start < w.stop then attempt w.start
    else ([], w.start)

/-- All matches of `steps` in a window of `text`, from left to right, each with the window that
steps after the last one would scan. -/
def endings (steps : List Step) (text : Array Char) (w : Window) : List (Match × Window) :=
  (sweep (fun pos => followLeaving text steps [] ⟨pos, w.stop⟩) w.start w.stop).1

/-- Steps at the end that do the same with every window, without moving on, do so with the window
that each match leaves. -/
theorem follow_append {last : List Step} {text : Array Char} (finish : Match × Window → List Match)
    (hlast : ∀ before w, follow last text before w = (finish (before, w), w.start))
    (steps : List Step) (before : List Capture) (w : Window) :
    follow (steps ++ last) text before w =
      ((followLeaving text steps before w).1.flatMap finish,
        (followLeaving text steps before w).2) := by
  induction steps generalizing before w with
  | nil =>
    rw [List.nil_append, hlast, followLeaving, List.flatMap_singleton]
  | cons s rest ih =>
    have hattempt : ∀ pos,
        s.attempt (record s) (follow (rest ++ last) text) text before w.stop pos =
          ((s.attemptLeaving (followLeaving text rest) text before w.stop pos).1.flatMap finish,
            (s.attemptLeaving (followLeaving text rest) text before w.stop pos).2) := by
      intro pos
      unfold Step.attemptLeaving
      cases hscan : s.probe.scan text ⟨pos, w.stop⟩ with
      | hit hit => rw [Step.attempt_of_hit _ _ hscan, ih]
      | anchor offset => rw [Step.attempt_of_anchor _ _ hscan, ih]
      | miss resume => rw [Step.attempt_of_miss _ _ hscan, List.flatMap_nil]
    rw [List.cons_append, follow_cons, followLeaving, Step.attempts]
    split
    · exact sweep_flatMap finish 0 fun pos _ _ => hattempt pos
    · split
      · exact hattempt w.start
      · rw [List.flatMap_nil]

theorem search_append {last : List Step} {text : Array Char} (finish : Match × Window → List Match)
    (hlast : ∀ before w, follow last text before w = (finish (before, w), w.start))
    (steps : List Step) (w : Window) :
    search (steps ++ last) text w = (endings steps text w).flatMap finish := by
  have hvisit := fun pos => follow_append finish hlast steps [] ⟨pos, w.stop⟩
  exact congrArg Prod.fst (sweep_flatMap finish 0 fun pos _ _ => hvisit pos)

theorem search_eq_endings (steps : List Step) (text : Array Char) (w : Window) :
    search steps text w = (endings steps text w).map Prod.fst := by
  have hlast : ∀ before w, follow [] text before w = ([before], w.start) := follow_nil text
  have hsearch := search_append (fun ending => [ending.1]) hlast steps w
  rw [List.append_nil] at hsearch
  rw [hsearch, List.map_eq_flatMap]

theorem follow_backward_zero (rest : List Step) (text : Array Char) (before : List Capture)
    {w : Window} (hlt : w.start < w.stop) :
    follow (.backward 0 :: rest) text before w =
      ((follow rest text before w).1, max (follow rest text before w).2 w.start) := by
  have hscan : (Step.backward 0).probe.scan text ⟨w.start, w.stop⟩ = .anchor w.start := rfl
  rw [follow_cons, Step.attempts_of_not_looping rfl hlt, Step.attempt_of_anchor _ _ hscan]
  rfl

theorem follow_of_isEmpty (s : Step) (rest : List Step) (text : Array Char)
    (before : List Capture) {w : Window} (hle : w.stop ≤ w.start) :
    follow (s :: rest) text before w = ([], w.start) := by
  rw [follow_cons, Step.attempts_of_isEmpty hle]

/-- At the end of the steps, the step keeps the matches that leave it a character. -/
theorem search_append_backward_zero (steps : List Step) (text : Array Char) (w : Window) :
    search (steps ++ [.backward 0]) text w =
      ((endings steps text w).filter fun ending => !ending.2.isEmpty).map Prod.fst := by
  have hlast : ∀ before w, follow [.backward 0] text before w =
      (if w.isEmpty then [] else [before], w.start) := by
    intro before w
    by_cases hlt : w.start < w.stop
    · have hsome : w.isEmpty = false := decide_eq_false (Nat.not_le_of_lt hlt)
      rw [follow_backward_zero [] text before hlt, follow_nil, Nat.max_self, hsome,
        if_neg Bool.false_ne_true]
    · have hle : w.stop ≤ w.start := Nat.le_of_not_lt hlt
      have hnone : w.isEmpty = true := decide_eq_true hle
      rw [follow_of_isEmpty _ _ _ _ hle, hnone, if_pos rfl]
  rw [search_append (fun ending => if ending.2.isEmpty then [] else [ending.1]) hlast]
  induction endings steps text w with
  | nil => rfl
  | cons ending later ih =>
    rw [List.flatMap_cons, ih, List.filter_cons]
    cases ending.2.isEmpty <;> rfl

/-- A step does not ask for more than the matches of the steps after it, and for the position that
they reach where it lies past their window's start: a hit and an anchor go at least that far
themselves. -/
theorem Step.attempt_congr (s : Step) (record : Array Char → Capture)
    {next next' : List Capture → Window → List Match × Nat} {text : Array Char}
    (h : ∀ before w, (next' before w).1 = (next before w).1 ∧
      max (next' before w).2 w.start = max (next before w).2 w.start)
    (before : List Capture) {pos stop : Nat} (hlt : pos < stop) :
    s.attempt record next' text before stop pos = s.attempt record next text before stop pos := by
  have hbounds := s.probe.scan_inBounds text (w := ⟨pos, stop⟩) (Nat.le_of_lt hlt)
  cases hscan : s.probe.scan text ⟨pos, stop⟩ with
  | hit hit =>
    rw [hscan] at hbounds
    have hstart : (s.windowAfter hit stop).start ≤ hit.stop := by
      unfold Step.windowAfter
      split
      · exact hbounds.2.1
      · exact Nat.le_refl _
    obtain ⟨hfound, hreached⟩ :=
      h (before ++ s.kept record text hit) (s.windowAfter hit stop)
    rw [Step.attempt_of_hit _ _ hscan, Step.attempt_of_hit _ _ hscan, hfound]
    congr 1
    omega
  | anchor offset =>
    obtain ⟨hfound, hreached⟩ := h before (s.windowAt offset stop)
    have hstart : (s.windowAt offset stop).start = offset := rfl
    rw [hstart] at hreached
    rw [Step.attempt_of_anchor _ _ hscan, Step.attempt_of_anchor _ _ hscan, hfound, hreached]
  | miss resume => rw [Step.attempt_of_miss _ _ hscan, Step.attempt_of_miss _ _ hscan]

theorem follow_insert_backward_zero (front : List Step) (s : Step) (rest : List Step)
    (text : Array Char) (before : List Capture) (w : Window) :
    (follow (front ++ .backward 0 :: s :: rest) text before w).1 =
        (follow (front ++ s :: rest) text before w).1 ∧
      max (follow (front ++ .backward 0 :: s :: rest) text before w).2 w.start =
        max (follow (front ++ s :: rest) text before w).2 w.start := by
  induction front generalizing before w with
  | nil =>
    simp only [List.nil_append]
    by_cases hlt : w.start < w.stop
    · rw [follow_backward_zero _ _ _ hlt]
      exact ⟨rfl, by omega⟩
    · have hle : w.stop ≤ w.start := Nat.le_of_not_lt hlt
      rw [follow_of_isEmpty _ _ _ _ hle, follow_of_isEmpty _ _ _ _ hle]
      exact ⟨rfl, rfl⟩
  | cons first front ih =>
    have hattempt : ∀ pos, w.start ≤ pos → pos < w.stop →
        first.attempt (record first) (follow (front ++ .backward 0 :: s :: rest) text) text before
            w.stop pos =
          first.attempt (record first) (follow (front ++ s :: rest) text) text before w.stop pos :=
      fun pos _ hlt => first.attempt_congr (record first) ih before hlt
    have hsame : follow (first :: front ++ .backward 0 :: s :: rest) text before w =
        follow (first :: front ++ s :: rest) text before w := by
      rw [List.cons_append, List.cons_append, follow_cons, follow_cons]
      exact first.attempts_congr hattempt
    rw [hsame]
    exact ⟨rfl, rfl⟩

theorem search_insert_backward_zero (front : List Step) (s : Step) (rest : List Step)
    (text : Array Char) (w : Window) :
    search (front ++ .backward 0 :: s :: rest) text w = search (front ++ s :: rest) text w :=
  congrArg Prod.fst (sweep_congr_of_max fun pos =>
    follow_insert_backward_zero front s rest text [] ⟨pos, w.stop⟩)

theorem stepsFault?_insert_backward_zero (front back : List Step) :
    stepsFault? (front ++ .backward 0 :: back) = stepsFault? (front ++ back) := by
  induction front with
  | nil => rfl
  | cons s front ih => rw [List.cons_append, List.cons_append, stepsFault?, stepsFault?, ih]

theorem ruleFault?_insert_backward_zero {front back : List Step}
    (h : ruleFault? (front ++ back) = none) : ruleFault? (front ++ .backward 0 :: back) = none := by
  obtain ⟨-, hsteps⟩ := ruleFault?_eq_none_iff.mp h
  rw [← stepsFault?_insert_backward_zero] at hsteps
  have hne : front ++ .backward 0 :: back ≠ [] :=
    List.append_ne_nil_of_right_ne_nil front (List.cons_ne_nil _ _)
  exact ruleFault?_eq_none_iff.mpr ⟨hne, hsteps⟩

namespace Rule

/-- The matches of a rule in `text`, each with the window that it leaves. -/
def endings (r : Rule) (text : String) : List (Match × Window) :=
  Scan.endings r.steps text.toList.toArray ⟨0, text.toList.toArray.size⟩

/-- The rule with `.backward 0` as its step number `i`, or as its last step. -/
def insertBackwardZero (r : Rule) (i : Nat) : Rule where
  steps := r.steps.take i ++ .backward 0 :: r.steps.drop i
  faultless := ruleFault?_insert_backward_zero (by rw [List.take_append_drop, r.faultless])

@[simp] theorem steps_insertBackwardZero (r : Rule) (i : Nat) :
    (r.insertBackwardZero i).steps = r.steps.take i ++ .backward 0 :: r.steps.drop i := rfl

theorem findAll_eq_endings (r : Rule) (text : String) :
    r.findAll text = (r.endings text).map Prod.fst :=
  search_eq_endings _ _ _

variable {r : Rule} {i : Nat}

theorem search_insertBackwardZero (h : i < r.steps.length) (text : Array Char) (w : Window) :
    search (r.insertBackwardZero i).steps text w = search r.steps text w := by
  have hsteps : r.steps = r.steps.take i ++ r.steps[i] :: r.steps.drop (i + 1) := by
    rw [← List.drop_eq_getElem_cons, List.take_append_drop]
  rw [steps_insertBackwardZero, List.drop_eq_getElem_cons h, search_insert_backward_zero, ← hsteps]

theorem findAll_insertBackwardZero_of_le (h : r.steps.length ≤ i) (text : String) :
    (r.insertBackwardZero i).findAll text =
      ((r.endings text).filter fun ending => !ending.2.isEmpty).map Prod.fst := by
  rw [findAll, steps_insertBackwardZero, List.take_of_length_le h, List.drop_eq_nil_of_le h]
  exact search_append_backward_zero _ _ _

end Rule

/-- Moving back by no characters can be put anywhere into a rule. Before a step it changes nothing,
whatever the text and the window. At the end it loses the matches that leave no character after them
and keeps the others, so that it is neutral there in the texts where every match leaves a
character. -/
theorem backward_zero_is_neutral_before_steps (r : Rule) (i : Nat) (text : String) :
    ∃ r' : Rule,
      Rule.ofSteps (r.steps.take i ++ .backward 0 :: r.steps.drop i) = .ok r' ∧
      (i < r.steps.length →
        r'.findAll text = r.findAll text ∧ ∀ w, r'.findIn text w = r.findIn text w) ∧
      (r.steps.length ≤ i →
        r.findAll text = (r.endings text).map Prod.fst ∧
        r'.findAll text =
          ((r.endings text).filter fun ending => !ending.2.isEmpty).map Prod.fst) ∧
      (r'.findAll text = r.findAll text ↔
        i < r.steps.length ∨ ∀ ending ∈ r.endings text, ending.2.isEmpty = false) := by
  have hbefore : i < r.steps.length → (r.insertBackwardZero i).findAll text = r.findAll text :=
    fun hlt => Rule.search_insertBackwardZero hlt _ _
  refine ⟨r.insertBackwardZero i, Rule.ofSteps_steps (r.insertBackwardZero i), ?_, ?_, ?_⟩
  · intro hlt
    refine ⟨hbefore hlt, fun w => ?_⟩
    rw [Rule.findIn, Rule.findIn, Rule.search_insertBackwardZero hlt]
  · intro hle
    exact ⟨r.findAll_eq_endings text, Rule.findAll_insertBackwardZero_of_le hle text⟩
  · rcases Nat.lt_or_ge i r.steps.length with hlt | hle
    · exact iff_of_true (hbefore hlt) (.inl hlt)
    rw [Rule.findAll_insertBackwardZero_of_le hle, r.findAll_eq_endings,
      or_iff_right (Nat.not_lt.mpr hle)]
    constructor
    · intro hsame
      -- A match that is lost leaves the list shorter.
      have hlength := congrArg List.length hsame
      rw [List.length_map, List.length_map, List.length_filter_eq_length_iff] at hlength
      simpa using hlength
    · intro hleft
      rw [List.filter_eq_self.mpr (by simpa using hleft)]

/-- The word at the end of a text is lost to a rule that goes on from it, although the step itself
succeeds there. -/
theorem backward_zero_at_the_end_loses_a_match :
    ((Rule.ofSteps [Step.word.saving]).bind fun r => .ok (r.findAll "a")) =
      .ok [[.text "a"]] ∧
    ((Rule.ofSteps [Step.word.saving, .backward 0]).bind fun r => .ok (r.findAll "a")) = .ok [] ∧
    (Probe.backward 0).scanIn "a" ⟨1, 1⟩ = .ok (.anchor 1) :=
  ⟨rfl, rfl, rfl⟩

end Scan
end Autocomplete
