import Autocomplete.Proofs.Scan.Attempt

/-!
# A search with one buffer

The search is run once more on a single buffer of captures, to which every branch adds its own and
which it cuts back to its former length, and on a single list of matches, to which every complete
match is added. Each loop either ends with a position or goes on from one. Whatever the buffer holds
when a branch is entered stands in front of the matches that it adds, and is all that it leaves.
-/

namespace Autocomplete
namespace Scan

/-- The captures of the branch at hand, and the matches of the branches done with. -/
structure Buffers where
  captures : List Capture := []
  found : List Match := []

namespace Buffers

def push (c : Capture) (b : Buffers) : Buffers := { b with captures := b.captures ++ [c] }

def truncate (length : Nat) (b : Buffers) : Buffers :=
  { b with captures := b.captures.take length }

def complete (b : Buffers) : Buffers := { b with found := b.found ++ [b.captures] }

def add (made : List Match) (b : Buffers) : Buffers := { b with found := b.found ++ made }

@[simp] theorem add_nil (b : Buffers) : b.add [] = b := by
  simp [add]

@[simp] theorem add_add (made later : List Match) (b : Buffers) :
    (b.add made).add later = b.add (made ++ later) := by
  simp [add]

theorem truncate_add (made : List Match) (b : Buffers) :
    (b.add made).truncate b.captures.length = b.add made := by
  simp [truncate, add]

/-- Cutting the buffer back to its former length takes back what was added to it. -/
theorem truncate_add_push (made : List Match) (c : Capture) (b : Buffers) :
    ((b.push c).add made).truncate b.captures.length = b.add made := by
  simp [truncate, add, push]

end Buffers

/-- Goes from round to round until one is the last or the window is used up. A round tells where the
next one takes place, which is at least one character further on. -/
def rounds (round : Nat → StateM Buffers (ForInStep Nat)) (stop start : Nat) :
    StateM Buffers Nat := do
  if start < stop then
    match ← round start with
    | .done reached => return reached
    | .yield reached => rounds round stop (max reached (start + 1))
  else return start
termination_by stop - start

namespace Step

def next (s : Step) (reached : Nat) : ForInStep Nat :=
  if s.looping then .yield reached else .done reached

/-- The branch of a success: the captures made in it are taken back when it is done with. -/
def branch (s : Step) (capture? : Option Capture) (follow : StateM Buffers Nat) (consumed : Nat) :
    StateM Buffers (ForInStep Nat) := do
  let saved := (← get).captures.length
  if let some c := capture? then modify (·.push c)
  let reached ← follow
  modify (·.truncate saved)
  return s.next (max reached consumed)

def round (s : Step) (record : Array Char → Capture) (follow : Window → StateM Buffers Nat)
    (text : Array Char) (stop pos : Nat) : StateM Buffers (ForInStep Nat) :=
  match s.probe.scan text ⟨pos, stop⟩ with
  | .miss resume => return s.next resume
  | .hit hit =>
    s.branch (if s.captured then some (record (hit.slice text)) else none)
      (follow (s.windowAfter hit stop)) hit.stop
  | .anchor offset => s.branch none (follow (s.windowAt offset stop)) offset

end Step

mutual

/-- Follows `steps` in a window, and leaves the position from which the caller goes on. -/
def followShared : (steps : List Step) → (text : Array Char) → Window → StateM Buffers Nat
  | [], _, w => do
    modify Buffers.complete
    return w.start
  | step :: rest, text, w =>
    rounds (step.round (recordShared step) (followShared rest text) text w.stop) w.stop w.start
termination_by structural steps => steps

def recordShared : Step → Array Char → Capture
  | ⟨_, _, _, _, transform⟩, matched => captureShared transform matched
termination_by structural s => s

/-- A transform works on buffers of its own. -/
def captureShared : Option (List Step) → Array Char → Capture
  | none, matched => .text (String.ofList matched.toList)
  | some steps, matched =>
    .inner ((rounds (fun pos => .yield <$> followShared steps matched ⟨pos, matched.size⟩)
      matched.size 0).run {}).2.found
termination_by structural steps => steps

end

/-- All matches in a window, from empty buffers that all starting positions share. -/
def searchShared (steps : List Step) (text : Array Char) (w : Window) : List Match :=
  ((rounds (fun pos => .yield <$> followShared steps text ⟨pos, w.stop⟩)
    w.stop w.start).run {}).2.found

section

variable {round : Nat → StateM Buffers (ForInStep Nat)} {start stop : Nat} {b : Buffers}

theorem run_rounds_of_le (h : stop ≤ start) : (rounds round stop start).run b = (start, b) := by
  rw [rounds, if_neg (Nat.not_lt.mpr h)]
  rfl

theorem run_rounds_of_done {reached : Nat} {b' : Buffers} (hlt : start < stop)
    (h : (round start).run b = (.done reached, b')) :
    (rounds round stop start).run b = (reached, b') := by
  rw [rounds, if_pos hlt, StateT.run_bind, h]
  rfl

theorem run_rounds_of_yield {reached : Nat} {b' : Buffers} (hlt : start < stop)
    (h : (round start).run b = (.yield reached, b')) :
    (rounds round stop start).run b = (rounds round stop (max reached (start + 1))).run b' := by
  rw [rounds, if_pos hlt, StateT.run_bind, h]
  rfl

theorem run_rounds_eq_sweep (visit : Nat → List Match × Nat)
    (h : ∀ pos, start ≤ pos → pos < stop → ∀ b' : Buffers, b'.captures = b.captures →
      (round pos).run b' = (.yield (visit pos).2, b'.add (visit pos).1)) :
    (rounds round stop start).run b =
      ((sweep visit start stop).2, b.add (sweep visit start stop).1) := by
  revert b
  apply sweep_induction visit (motive := fun start r => ∀ b : Buffers,
    (∀ pos, start ≤ pos → pos < stop → ∀ b' : Buffers, b'.captures = b.captures →
      (round pos).run b' = (.yield (visit pos).2, b'.add (visit pos).1)) →
    (rounds round stop start).run b = (r.2, b.add r.1))
  · intro pos hle b _
    rw [run_rounds_of_le hle, Buffers.add_nil]
  · intro pos r hlt ih b h
    have hlater := ih (b.add (visit pos).1) fun later hle => h later (by omega)
    rw [run_rounds_of_yield hlt (h pos (Nat.le_refl _) hlt b rfl), hlater, Buffers.add_add]

/-- Starting positions that all work on the same buffers, empty at first, make a sweep as well. -/
theorem run_rounds_of_follow {followS : Window → StateM Buffers Nat}
    {follow : List Capture → Window → List Match × Nat}
    (h : ∀ w (b : Buffers), (followS w).run b =
      ((follow b.captures w).2, b.add (follow b.captures w).1)) :
    ((rounds (fun pos => .yield <$> followS ⟨pos, stop⟩) stop start).run {}).2.found =
      (sweep (fun pos => follow [] ⟨pos, stop⟩) start stop).1 := by
  rw [run_rounds_eq_sweep fun pos => follow [] ⟨pos, stop⟩]
  · exact List.nil_append _
  · intro pos _ _ b hcaptures
    have hrun := h ⟨pos, stop⟩ b
    rw [hcaptures] at hrun
    rw [StateT.run_map, hrun]
    rfl

end

namespace Step

variable {record : Array Char → Capture} {follow : List Capture → Window → List Match × Nat}
  {followS : Window → StateM Buffers Nat} {text : Array Char} {stop pos : Nat} {b : Buffers}

theorem run_branch (s : Step) (capture? : Option Capture) {branch : StateM Buffers Nat}
    (result : List Capture → List Match × Nat) (consumed : Nat)
    (h : ∀ b : Buffers, branch.run b = ((result b.captures).2, b.add (result b.captures).1)) :
    (s.branch capture? branch consumed).run b =
      (s.next (max (result (b.captures ++ capture?.toList)).2 consumed),
        b.add (result (b.captures ++ capture?.toList)).1) := by
  cases capture? with
  | none =>
    have hrun : (s.branch none branch consumed).run b = (s.next (max (branch.run b).1 consumed),
        (branch.run b).2.truncate b.captures.length) := rfl
    rw [hrun, h, Buffers.truncate_add, Option.toList_none, List.append_nil]
  | some c =>
    have hrun : (s.branch (some c) branch consumed).run b =
        (s.next (max (branch.run (b.push c)).1 consumed),
          (branch.run (b.push c)).2.truncate b.captures.length) := rfl
    rw [hrun, h, Buffers.truncate_add_push]
    rfl

/-- A round does what the attempt does at its position, and leaves the captures as they were. -/
theorem run_round (s : Step)
    (h : ∀ w (b : Buffers), (followS w).run b =
      ((follow b.captures w).2, b.add (follow b.captures w).1)) :
    (s.round record followS text stop pos).run b =
      (s.next (s.attempt record follow text b.captures stop pos).2,
        b.add (s.attempt record follow text b.captures stop pos).1) := by
  unfold round
  cases hscan : s.probe.scan text ⟨pos, stop⟩ with
  | miss resume =>
    rw [attempt_of_miss _ _ hscan, Buffers.add_nil]
    rfl
  | anchor offset =>
    have hbranch := s.run_branch none (follow · (s.windowAt offset stop)) offset
      (h (s.windowAt offset stop)) (b := b)
    rw [Option.toList_none, List.append_nil] at hbranch
    rw [attempt_of_anchor _ _ hscan]
    exact hbranch
  | hit hit =>
    have hkept : (if s.captured then some (record (hit.slice text)) else none).toList =
        s.kept record text hit := by
      unfold kept
      cases s.captured <;> rfl
    rw [attempt_of_hit _ _ hscan, ← hkept]
    exact s.run_branch _ (follow · (s.windowAfter hit stop)) hit.stop (h _)

theorem run_rounds (s : Step) {round : Nat → StateM Buffers (ForInStep Nat)}
    {attempt : Nat → List Match × Nat} {w : Window}
    (h : ∀ pos (b' : Buffers), b'.captures = b.captures →
      (round pos).run b' = (s.next (attempt pos).2, b'.add (attempt pos).1)) :
    (rounds round w.stop w.start).run b =
      ((s.attempts attempt w).2, b.add (s.attempts attempt w).1) := by
  cases hloop : s.looping with
  | true =>
    have hnext : ∀ reached, s.next reached = .yield reached := fun _ => if_pos hloop
    simp only [hnext] at h
    rw [attempts_of_looping hloop]
    exact run_rounds_eq_sweep attempt fun pos _ _ => h pos
  | false =>
    have hnext : ∀ reached, s.next reached = .done reached :=
      fun _ => if_neg (by simp [hloop])
    by_cases hlt : w.start < w.stop
    · have hround := h w.start b rfl
      rw [hnext] at hround
      rw [attempts_of_not_looping hloop hlt, run_rounds_of_done hlt hround]
    · have hle := Nat.le_of_not_lt hlt
      rw [attempts_of_isEmpty hle, run_rounds_of_le hle, Buffers.add_nil]

end Step

mutual

/-- On shared buffers, steps add what they find after the captures at hand, and nothing else. -/
theorem run_followShared : (steps : List Step) → ∀ (text : Array Char) (w : Window) (b : Buffers),
    (followShared steps text w).run b =
      ((follow steps text b.captures w).2, b.add (follow steps text b.captures w).1)
  | [], _, _, _ => rfl
  | step :: rest, text, w, b => by
    rw [followShared, follow_cons, funext (recordShared_eq step)]
    apply step.run_rounds
    intro pos b' hcaptures
    rw [← hcaptures]
    exact step.run_round (run_followShared rest text)
termination_by structural steps => steps

theorem recordShared_eq : (s : Step) → ∀ matched : Array Char,
    recordShared s matched = record s matched
  | ⟨_, _, _, _, transform⟩, matched => captureShared_eq transform matched
termination_by structural s => s

theorem captureShared_eq : (transform : Option (List Step)) → ∀ matched : Array Char,
    captureShared transform matched = capture transform matched
  | none, _ => rfl
  | some steps, matched =>
    congrArg Capture.inner (run_rounds_of_follow (run_followShared steps matched))
termination_by structural steps => steps

end

theorem searchShared_eq (steps : List Step) (text : Array Char) (w : Window) :
    searchShared steps text w = search steps text w :=
  run_rounds_of_follow (run_followShared steps text)

/-- Steps that are followed on shared buffers go on from the same position whatever these hold,
leave the captures and the matches found before as they were, and add the matches that they make on
empty buffers, each with the captures at hand in front. So no branch of a search sees the captures
of another one, and the search finds what it finds with buffers for each branch. -/
theorem branches_share_one_buffer (steps : List Step) (text : Array Char) (w : Window) :
    ∃ (reached : Nat) (made : List Match),
      (followShared steps text w).run {} = (reached, { found := made }) ∧
      (∀ b : Buffers, (followShared steps text w).run b =
        (reached, { captures := b.captures, found := b.found ++ made.map (b.captures ++ ·) })) ∧
      (∀ before : List Capture,
        follow steps text before w = (made.map (before ++ ·), reached)) ∧
      searchShared steps text w = search steps text w := by
  refine ⟨(follow steps text [] w).2, (follow steps text [] w).1, run_followShared steps text w {},
    ?_, fun before => follow_before steps text before w, searchShared_eq steps text w⟩
  intro b
  rw [run_followShared, follow_before]
  rfl

end Scan
end Autocomplete
