import Autocomplete.Proofs.Scan.Attempt

/-!
# Bounds of probes and searches

A probe answers inside its window: only an anchor lies before it. From this every window that a
search hands to its remaining steps ends no later than the one it came from, and so does the
position that the search gives back.
-/

namespace Autocomplete
namespace Scan

variable {text : Array Char}

/-- The place an outcome may point to when the window `w` was scanned: a hit or a resumption lies
inside the window, an anchor does not lie after its start. -/
def Outcome.InBounds (w : Window) : Outcome → Prop
  | .hit h => w.start ≤ h.start ∧ h.start ≤ h.stop ∧ h.stop ≤ w.stop
  | .anchor offset => offset ≤ w.start
  | .miss resume => w.start ≤ resume ∧ resume ≤ w.stop

theorem occursAt_iff (text : Array Char) (literal : List Char) (offset stop : Nat) :
    occursAt text literal offset stop = true ↔ offset + literal.length ≤ stop ∧
      (Window.slice ⟨offset, offset + literal.length⟩ text).toList = literal := by
  induction literal generalizing offset with
  | nil => simp [occursAt, Window.slice]
  | cons c rest ih =>
    have hslice : (Window.slice ⟨offset, offset + (c :: rest).length⟩ text).toList = c :: rest ↔
        text[offset]? = some c ∧
          (Window.slice ⟨offset + 1, offset + 1 + rest.length⟩ text).toList = rest := by
      have htail : text.toList.drop (offset + 1) = (text.toList.drop offset).tail := by
        rw [List.tail_drop]
      have hhead : text[offset]? = (text.toList.drop offset).head? := by
        rw [List.head?_drop, Array.getElem?_toList]
      simp only [Window.slice, Array.toList_extract, List.extract_eq_take_drop, List.length_cons]
      rw [htail, hhead, Nat.add_sub_cancel_left, Nat.add_sub_cancel_left]
      cases text.toList.drop offset <;> simp
    rw [hslice]
    simp only [occursAt, Bool.and_eq_true, decide_eq_true_eq, beq_iff_eq, ih, List.length_cons]
    constructor
    · rintro ⟨⟨_, hc⟩, hle, hrest⟩
      exact ⟨by omega, hc, hrest⟩
    · rintro ⟨hle, hc, hrest⟩
      exact ⟨⟨by omega, hc⟩, by omega, hrest⟩

theorem add_length_le_of_occursAt {l : List Char} {place stop : Nat}
    (h : occursAt text l place stop = true) : place + l.length ≤ stop :=
  ((occursAt_iff text l place stop).mp h).1

theorem lt_of_occursAt {l : List Char} {place stop : Nat} (hne : l ≠ [])
    (h : occursAt text l place stop = true) : place < stop := by
  have hlength := List.length_pos_iff.mpr hne
  have hle := add_length_le_of_occursAt h
  omega

theorem getElem?_of_occursAt {l : List Char} {place stop i : Nat}
    (h : occursAt text l place stop = true) (hi : i < l.length) : text[place + i]? = l[i]? := by
  induction l generalizing place i with
  | nil => simp at hi
  | cons c l ih =>
    simp only [occursAt, Bool.and_eq_true, beq_iff_eq] at h
    cases i with
    | zero => exact h.1.2
    | succ i =>
      have hlater := ih h.2 (Nat.lt_of_succ_lt_succ hi)
      rwa [List.getElem?_cons_succ, Nat.add_comm i, ← Nat.add_assoc]

/-- A literal that occurs in two places that overlap begins as it ends. -/
theorem drop_prefix_of_occursAt {l : List Char} {place d stop : Nat}
    (h : occursAt text l place stop = true) (h' : occursAt text l (place + d) stop = true) :
    l.drop d <+: l := by
  rw [List.prefix_iff_getElem?]
  intro i hi
  have hlength : d + i < l.length := by
    rw [List.length_drop] at hi
    omega
  have hread := getElem?_of_occursAt h hlength
  have hread' := getElem?_of_occursAt h' (Nat.lt_of_le_of_lt (Nat.le_add_left i d) hlength)
  rw [Nat.add_assoc, hread, List.getElem?_eq_getElem hlength] at hread'
  rw [← hread', List.getElem_drop]

theorem le_of_find?_occursAt {literals : List (List Char)} {literal : List Char} {offset stop : Nat}
    (h : literals.find? (occursAt text · offset stop) = some literal) :
    offset + literal.length ≤ stop := by
  have hoccurs := List.find?_some (p := (occursAt text · offset stop)) h
  exact add_length_le_of_occursAt hoccurs

theorem closingEnd?_bounds {opening closing : Char} {depth offset count stop : Nat}
    (h : closingEnd? text opening closing depth offset count = some stop) :
    offset < stop ∧ stop ≤ offset + count := by
  induction count generalizing depth offset with
  | zero => simp [closingEnd?] at h
  | succ count ih =>
    -- The scan either goes on one character further, at some depth, or closes the last group here.
    have hlater : ∀ depth', closingEnd? text opening closing depth' (offset + 1) count = some stop →
        offset < stop ∧ stop ≤ offset + (count + 1) := by
      intro depth' h'
      have := ih h'
      omega
    unfold closingEnd? at h
    split at h
    · exact hlater _ h
    · split at h
      · split at h
        · obtain rfl := Option.some.inj h
          omega
        · exact hlater _ h
      · exact hlater _ h

namespace Outcome

theorem InBounds.shift {w : Window} {o : Outcome} (h : o.InBounds w) (hle : w.start ≤ w.stop)
    (delta : Int) : (o.shift delta w.stop).InBounds w := by
  cases o with
  | hit found =>
    simp only [InBounds, Outcome.shift] at h ⊢
    omega
  | anchor offset => exact h
  | miss resume => exact h

end Outcome

namespace Probe

theorem firstOf_inBounds (literals : List (List Char)) {w : Window} (hle : w.start ≤ w.stop) :
    (firstOf literals text w).InBounds w := by
  unfold firstOf
  dsimp only
  split
  · rename_i offset hfirst
    obtain ⟨hstart, -, hsome, -⟩ := firstIn?_eq_some hfirst
    obtain ⟨literal, hliteral⟩ := Option.isSome_iff_exists.mp hsome
    rw [hliteral, Option.getD_some]
    exact ⟨hstart, Nat.le_add_right _ _, le_of_find?_occursAt hliteral⟩
  · exact ⟨hle, Nat.le_refl _⟩

/-- Every probe, however it is composed, answers in bounds. -/
theorem scan_inBounds (p : Probe) (text : Array Char) {w : Window} (hle : w.start ≤ w.stop) :
    (p.scan text w).InBounds w := by
  induction p with
  | literal l =>
    rw [scan_literal]
    exact firstOf_inBounds [l] hle
  | oneOf ls => exact firstOf_inBounds ls hle
  | oneOfAtStart ls =>
    unfold scan
    split
    · rename_i l hl
      exact ⟨Nat.le_refl _, Nat.le_add_right _ _, le_of_find?_occursAt hl⟩
    · exact ⟨Nat.le_refl _, hle⟩
  | run kind mayBeEmpty =>
    unfold scan
    dsimp only
    split
    · exact ⟨Nat.le_refl _, hle⟩
    · exact ⟨Nat.le_refl _, le_runEnd _ _ _, runEnd_le hle⟩
  | spacedWord =>
    have hspaces := runEnd_le (p := charAtSatisfies text (· == ' ')) hle
    unfold scan
    dsimp only
    split
    · exact ⟨le_runEnd _ _ _, hspaces⟩
    · exact ⟨le_runEnd _ _ _, le_runEnd _ _ _, runEnd_le hspaces⟩
  | bracket opening closing =>
    unfold scan
    split
    · split
      · rename_i hopen _ stop hclose
        have hstop := closingEnd?_bounds hclose
        simp only [Bool.and_eq_true, decide_eq_true_eq] at hopen
        simp only [Outcome.InBounds]
        omega
      · exact ⟨hle, Nat.le_refl _⟩
    · exact ⟨Nat.le_refl _, hle⟩
  | backward count => exact Nat.sub_le _ _
  | lineStart => exact Nat.le_trans (runStart_le _ _) (Nat.min_le_left _ _)
  | shifted inner delta ih => exact ih.shift hle delta
  | orElse first second ihfirst ihsecond =>
    unfold scan
    split
    · exact ihsecond
    · exact ihfirst

end Probe

namespace Step

variable {pos stop : Nat}

theorem windowAfter_bounds (s : Step) {hit : Window} (h : (Outcome.hit hit).InBounds ⟨pos, stop⟩) :
    pos ≤ (s.windowAfter hit stop).start ∧
      (s.windowAfter hit stop).start ≤ (s.windowAfter hit stop).stop ∧
      (s.windowAfter hit stop).stop ≤ stop := by
  obtain ⟨hstart, hle, hstop⟩ := h
  unfold windowAfter
  split
  · exact ⟨hstart, hle, hstop⟩
  · exact ⟨Nat.le_trans hstart hle, hstop, Nat.le_refl _⟩

theorem windowAt_bounds (s : Step) {offset : Nat} (h : offset ≤ stop) :
    (s.windowAt offset stop).start ≤ (s.windowAt offset stop).stop ∧
      (s.windowAt offset stop).stop ≤ stop := by
  unfold windowAt
  dsimp only
  split
  · exact ⟨Nat.le_refl _, h⟩
  · exact ⟨h, Nat.le_refl _⟩

end Step

theorem follow_snd_le (steps : List Step) (text : Array Char) (before : List Capture) {w : Window}
    (hle : w.start ≤ w.stop) : (follow steps text before w).2 ≤ w.stop := by
  induction steps generalizing before w with
  | nil => exact hle
  | cons s rest ih =>
    rw [follow_cons]
    apply Step.attempts_snd_le hle
    intro pos _ hlt
    have hbounds := s.probe.scan_inBounds text (w := ⟨pos, w.stop⟩) (Nat.le_of_lt hlt)
    cases hscan : s.probe.scan text ⟨pos, w.stop⟩ with
    | hit hit =>
      rw [hscan] at hbounds
      obtain ⟨-, hnext, hstop⟩ := s.windowAfter_bounds hbounds
      rw [Step.attempt_of_hit _ _ hscan]
      exact Nat.max_le.mpr ⟨Nat.le_trans (ih _ hnext) hstop, hbounds.2.2⟩
    | anchor offset =>
      rw [hscan] at hbounds
      have hoffset : offset ≤ w.stop := Nat.le_trans hbounds (Nat.le_of_lt hlt)
      obtain ⟨hnext, hstop⟩ := s.windowAt_bounds hoffset
      rw [Step.attempt_of_anchor _ _ hscan]
      exact Nat.max_le.mpr ⟨Nat.le_trans (ih _ hnext) hstop, hoffset⟩
    | miss resume =>
      rw [hscan] at hbounds
      rw [Step.attempt_of_miss _ _ hscan]
      exact hbounds.2

end Scan
end Autocomplete
