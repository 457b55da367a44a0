import Autocomplete.Proofs.Scan.CheckedProbe
import Autocomplete.Scan.Rule

/-!
# Searches that may only look inside the text

The search is run once more on probes that fail outside the text. It also fails as soon as a window
that it is asked to follow its steps in, or a text that it is asked to capture, does not lie in the
text at hand; a transform has the captured text at hand, and nothing else. In a window of the text
none of this happens.
-/

namespace Autocomplete
namespace Scan

variable {α : Type}

def sweepFromChecked (visit : Nat → Option (List α × Nat)) :
    (count pos cursor : Nat) → Option (List α × Nat)
  | 0, _, cursor => some ([], cursor)
  | count + 1, pos, cursor =>
    if pos < cursor then sweepFromChecked visit count (pos + 1) cursor
    else do
      let (found, reached) ← visit pos
      let (later, last) ← sweepFromChecked visit count (pos + 1) (max reached (pos + 1))
      return (found ++ later, last)

def sweepChecked (visit : Nat → Option (List α × Nat)) (start stop : Nat) :
    Option (List α × Nat) :=
  sweepFromChecked visit (stop - start) start start

theorem sweepFromChecked_eq {visit' : Nat → Option (List α × Nat)} {visit : Nat → List α × Nat}
    {count pos cursor : Nat} (h : ∀ i, pos ≤ i → i < pos + count → visit' i = some (visit i)) :
    sweepFromChecked visit' count pos cursor = some (sweepFrom visit count pos cursor) := by
  induction count generalizing pos cursor with
  | zero => rfl
  | succ count ih =>
    have hlater : ∀ i, pos + 1 ≤ i → i < pos + 1 + count → visit' i = some (visit i) :=
      fun i hle hlt => h i (by omega) (by omega)
    rw [sweepFromChecked, sweepFrom]
    split
    · exact ih hlater
    · rw [h pos (Nat.le_refl _) (by omega), Option.bind_eq_bind, Option.bind_some]
      simp only [ih hlater]
      rfl

theorem sweepChecked_eq {visit' : Nat → Option (List α × Nat)} {visit : Nat → List α × Nat}
    {start stop : Nat} (h : ∀ i, start ≤ i → i < stop → visit' i = some (visit i)) :
    sweepChecked visit' start stop = some (sweep visit start stop) :=
  sweepFromChecked_eq fun i hle hlt => h i hle (by omega)

namespace Step

def keptChecked (s : Step) (record : Array Char → Option Capture) (text : Array Char)
    (hit : Window) : Option (List Capture) :=
  if s.captured then do
    let matched ← hit.sliceChecked text
    let capture ← record matched
    return [capture]
  else return []

def attemptChecked (s : Step) (record : Array Char → Option Capture)
    (follow : List Capture → Window → Option (List Match × Nat)) (text : Array Char)
    (before : List Capture) (stop pos : Nat) : Option (List Match × Nat) := do
  match ← s.probe.scanChecked text ⟨pos, stop⟩ with
  | .miss resume => return ([], resume)
  | .hit hit =>
    let kept ← s.keptChecked record text hit
    let (found, reached) ← follow (before ++ kept) (s.windowAfter hit stop)
    return (found, max reached hit.stop)
  | .anchor offset =>
    let (found, reached) ← follow before (s.windowAt offset stop)
    return (found, max reached offset)

def attemptsChecked (s : Step) (attempt : Nat → Option (List Match × Nat)) (w : Window) :
    Option (List Match × Nat) :=
  if s.looping then sweepChecked attempt w.start w.stop
  else if w.start < w.stop then attempt w.start
  else return ([], w.start)

section

variable {text : Array Char} {record : Array Char → Capture}
  {record' : Array Char → Option Capture} {follow : List Capture → Window → List Match × Nat}
  {follow' : List Capture → Window → Option (List Match × Nat)}

theorem keptChecked_eq (s : Step) {hit : Window}
    (hrecord : ∀ matched, record' matched = some (record matched)) (h : hit.Within text.size) :
    s.keptChecked record' text hit = some (s.kept record text hit) := by
  unfold keptChecked kept
  split
  · rw [Window.sliceChecked, if_pos h, Option.bind_eq_bind, Option.bind_some, hrecord]
    rfl
  · rfl

theorem attemptChecked_eq (s : Step) (before : List Capture) {stop pos : Nat}
    (hrecord : ∀ matched, record' matched = some (record matched))
    (hfollow : ∀ before w, w.Within text.size → follow' before w = some (follow before w))
    (h : Window.Within ⟨pos, stop⟩ text.size) :
    s.attemptChecked record' follow' text before stop pos =
      some (s.attempt record follow text before stop pos) := by
  have hbounds := s.probe.scan_inBounds text h.1
  rw [attemptChecked, s.probe.scanChecked_eq h, Option.bind_eq_bind, Option.bind_some]
  cases hscan : s.probe.scan text ⟨pos, stop⟩ with
  | hit hit =>
    rw [hscan] at hbounds
    have hhit : hit.Within text.size := ⟨hbounds.2.1, Nat.le_trans hbounds.2.2 h.2⟩
    obtain ⟨-, hnext, hstop⟩ := s.windowAfter_bounds hbounds
    have hfound := hfollow (before ++ s.kept record text hit) _ ⟨hnext, Nat.le_trans hstop h.2⟩
    rw [attempt_of_hit _ _ hscan]
    simp only [s.keptChecked_eq hrecord hhit, Option.bind_eq_bind, Option.bind_some, hfound]
    rfl
  | anchor offset =>
    rw [hscan] at hbounds
    obtain ⟨hnext, hstop⟩ := s.windowAt_bounds (Nat.le_trans hbounds h.1)
    have hfound := hfollow before _ ⟨hnext, Nat.le_trans hstop h.2⟩
    rw [attempt_of_anchor _ _ hscan]
    simp only [hfound, Option.bind_eq_bind, Option.bind_some]
    rfl
  | miss resume =>
    rw [attempt_of_miss _ _ hscan]
    rfl

theorem attemptsChecked_eq (s : Step) {attempt' : Nat → Option (List Match × Nat)}
    {attempt : Nat → List Match × Nat} {w : Window}
    (h : ∀ pos, w.start ≤ pos → pos < w.stop → attempt' pos = some (attempt pos)) :
    s.attemptsChecked attempt' w = some (s.attempts attempt w) := by
  unfold attemptsChecked attempts
  split
  · exact sweepChecked_eq h
  · split
    · rename_i hlt
      exact h w.start (Nat.le_refl _) hlt
    · rfl

end

end Step

mutual

def followChecked : (steps : List Step) → (text : Array Char) → (before : List Capture) →
    Window → Option (List Match × Nat)
  | [], text, before, w => if w.Within text.size then some ([before], w.start) else none
  | step :: rest, text, before, w =>
    if w.Within text.size then
      step.attemptsChecked
        (step.attemptChecked (recordChecked step) (followChecked rest text) text before w.stop) w
    else none
termination_by structural steps => steps

def recordChecked : Step → Array Char → Option Capture
  | ⟨_, _, _, _, transform⟩, matched => captureChecked transform matched
termination_by structural s => s

def captureChecked : Option (List Step) → Array Char → Option Capture
  | none, matched => some (.text (String.ofList matched.toList))
  | some steps, matched => do
    let (found, _) ← sweepChecked
      (fun pos => followChecked steps matched [] ⟨pos, matched.size⟩) 0 matched.size
    return .inner found
termination_by structural steps => steps

end

mutual

theorem followChecked_eq : (steps : List Step) → ∀ (text : Array Char) (before : List Capture)
    (w : Window), w.Within text.size →
      followChecked steps text before w = some (follow steps text before w)
  | [], text, before, w, h => by
    rw [followChecked, if_pos h, follow_nil]
  | step :: rest, text, before, w, h => by
    rw [followChecked, if_pos h, follow_cons]
    apply step.attemptsChecked_eq
    intro pos _ hlt
    exact step.attemptChecked_eq before (recordChecked_eq step) (followChecked_eq rest text)
      ⟨Nat.le_of_lt hlt, h.2⟩
termination_by structural steps => steps

theorem recordChecked_eq : (s : Step) → ∀ matched : Array Char,
    recordChecked s matched = some (record s matched)
  | ⟨_, _, _, _, transform⟩, matched => captureChecked_eq transform matched
termination_by structural s => s

theorem captureChecked_eq : (transform : Option (List Step)) → ∀ matched : Array Char,
    captureChecked transform matched = some (capture transform matched)
  | none, matched => rfl
  | some steps, matched => by
    have hsweep : sweepChecked (fun pos => followChecked steps matched [] ⟨pos, matched.size⟩) 0
        matched.size =
          some (sweep (fun pos => follow steps matched [] ⟨pos, matched.size⟩) 0 matched.size) :=
      sweepChecked_eq fun pos _ hlt =>
        followChecked_eq steps matched [] _ ⟨Nat.le_of_lt hlt, Nat.le_refl _⟩
    rw [captureChecked, hsweep]
    rfl
termination_by structural steps => steps

end

def searchChecked (steps : List Step) (text : Array Char) (w : Window) : Option (List Match) := do
  let (found, _) ← sweepChecked (fun pos => followChecked steps text [] ⟨pos, w.stop⟩) w.start
    w.stop
  return found

theorem searchChecked_eq (steps : List Step) {text : Array Char} {w : Window}
    (h : w.Within text.size) : searchChecked steps text w = some (search steps text w) := by
  have hsweep : sweepChecked (fun pos => followChecked steps text [] ⟨pos, w.stop⟩) w.start
      w.stop = some (sweep (fun pos => follow steps text [] ⟨pos, w.stop⟩) w.start w.stop) :=
    sweepChecked_eq fun pos _ hlt => followChecked_eq steps text [] _ ⟨Nat.le_of_lt hlt, h.2⟩
  rw [searchChecked, hsweep]
  rfl

theorem Window.fault?_of_within {text : String} {w : Window} (h : w.Within text.length) :
    w.fault? text.toList.toArray.size = none := by
  rw [Window.fault?_eq_none_iff, List.size_toArray, String.length_toList]
  exact h

namespace Rule

def findAllChecked (r : Rule) (text : String) : Option (List Match) :=
  let chars := text.toList.toArray
  searchChecked r.steps chars ⟨0, chars.size⟩

def findInChecked (r : Rule) (text : String) (w : Window) :
    Option (Except Fault (List Match)) :=
  let chars := text.toList.toArray
  match w.fault? chars.size with
  | none => (searchChecked r.steps chars w).map .ok
  | some fault => some (.error fault)

theorem findAllChecked_eq (r : Rule) (text : String) :
    r.findAllChecked text = some (r.findAll text) :=
  searchChecked_eq r.steps ⟨Nat.zero_le _, Nat.le_refl _⟩

theorem findInChecked_eq (r : Rule) (text : String) (w : Window) :
    r.findInChecked text w = some (r.findIn text w) := by
  unfold findInChecked findIn
  dsimp only
  cases hfault : w.fault? text.toList.toArray.size with
  | none =>
    rw [searchChecked_eq r.steps (Window.fault?_eq_none_iff.mp hfault)]
    rfl
  | some fault => rfl

theorem findIn_of_within (r : Rule) {text : String} {w : Window} (h : w.Within text.length) :
    r.findIn text w = .ok (search r.steps text.toList.toArray w) := by
  rw [findIn, Window.fault?_of_within h]

theorem findIn_of_not_within (r : Rule) {text : String} {w : Window}
    (h : ¬w.Within text.length) :
    r.findIn text w = .error (.windowOutOfBounds w text.length) := by
  have hfault : w.fault? text.toList.toArray.size = some (.windowOutOfBounds w text.length) := by
    rw [Window.fault?, List.size_toArray, String.length_toList, if_neg h]
  rw [findIn, hfault]

end Rule

/-- No scan of a window of the text fails, with any probe, any steps and at any depth of nesting and
rescanning, and none goes past the end of its window. Of the searches with a rule only the one in a
window that is reversed or ends past the text is refused. -/
theorem scans_stay_in_bounds :
    (∀ (p : Probe) (text : Array Char) (w : Window), w.Within text.size →
      p.scanChecked text w = some (p.scan text w) ∧ (p.scan text w).InBounds w) ∧
    (∀ (steps : List Step) (text : Array Char) (before : List Capture) (w : Window),
      w.Within text.size →
        followChecked steps text before w = some (follow steps text before w) ∧
        (follow steps text before w).2 ≤ w.stop ∧
        searchChecked steps text w = some (search steps text w)) ∧
    (∀ (r : Rule) (text : String), r.findAllChecked text = some (r.findAll text)) ∧
    (∀ (r : Rule) (text : String) (w : Window),
      r.findInChecked text w = some (r.findIn text w) ∧
      (w.start ≤ w.stop ∧ w.stop ≤ text.length →
        r.findIn text w = .ok (search r.steps text.toList.toArray w)) ∧
      (w.stop < w.start ∨ text.length < w.stop →
        r.findIn text w = .error (.windowOutOfBounds w text.length))) := by
  refine ⟨?_, ?_, Rule.findAllChecked_eq, ?_⟩
  · intro p text w h
    exact ⟨p.scanChecked_eq h, p.scan_inBounds text h.1⟩
  · intro steps text before w h
    exact ⟨followChecked_eq steps text before w h, follow_snd_le steps text before h.1,
      searchChecked_eq steps h⟩
  · intro r text w
    refine ⟨r.findInChecked_eq text w, r.findIn_of_within, ?_⟩
    intro hout
    apply r.findIn_of_not_within
    rintro ⟨hle, hstop⟩
    omega

def lineWordSteps : List Step := [.lineStart, Step.word.saving]

theorem scans_stay_in_bounds_of_unbalanced_group :
    Window.Within ⟨3, 5⟩ "a\nb(c".toList.toArray.size ∧
      Probe.scanChecked "a\nb(c".toList.toArray
        (.orElse (.shifted (.bracket '(' ')') (-1)) .lineStart) ⟨3, 5⟩ = some (.anchor 2) ∧
      followChecked lineWordSteps "a\nb(c".toList.toArray [] ⟨3, 5⟩ = some ([[.text "b"]], 3) ∧
      Rule.findIn ⟨lineWordSteps, rfl⟩ "a\nb(c" ⟨4, 5⟩ = .ok [[.text "b"]] ∧
      Rule.findIn ⟨lineWordSteps, rfl⟩ "a\nb(c" ⟨4, 6⟩ =
        .error (.windowOutOfBounds ⟨4, 6⟩ 5) := by
  have hwithin : Window.Within ⟨3, 5⟩ "a\nb(c".toList.toArray.size := by decide
  obtain ⟨hprobe, hsteps, -, hrule⟩ := scans_stay_in_bounds
  obtain ⟨-, haccepted, -⟩ := hrule ⟨lineWordSteps, rfl⟩ "a\nb(c" ⟨4, 5⟩
  obtain ⟨-, -, hrefused⟩ := hrule ⟨lineWordSteps, rfl⟩ "a\nb(c" ⟨4, 6⟩
  refine ⟨hwithin, ?_, ?_, ?_, ?_⟩
  · rw [(hprobe _ _ _ hwithin).1]
    rfl
  · rw [(hsteps lineWordSteps _ [] _ hwithin).1]
    rfl
  · rw [haccepted (by decide)]
    rfl
  · exact hrefused (by decide)

end Scan
end Autocomplete
