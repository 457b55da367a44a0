import Autocomplete.Proofs.Scan.Bounds

/-!
# Searches over texts that agree

Two texts may agree on a stretch that starts `d` characters later in the one than in the other. The
answers of a probe, and of a search, in a window of that stretch then differ by the shift alone: the
probes see neither absolute offsets nor characters outside their window. The probes that move back
are the exception, for which the two stretches have to start both texts.
-/

namespace Autocomplete
namespace Scan

open Text

/-- The probe may answer with an anchor, itself or through a probe that it is made of. -/
def Probe.movesBack : Probe → Bool
  | .backward _ | .lineStart => true
  | .shifted inner _ => inner.movesBack
  | .orElse first second => first.movesBack || second.movesBack
  | .literal _ | .oneOf _ | .oneOfAtStart _ | .run _ _ | .spacedWord | .bracket _ _ => false

def Outcome.moved (d : Nat) : Outcome → Outcome
  | .hit w => .hit (w.moved d)
  | .anchor offset => .anchor (offset + d)
  | .miss resume => .miss (resume + d)

@[simp] theorem Outcome.moved_zero (o : Outcome) : o.moved 0 = o := by
  cases o <;> rfl

/-- Moving the end of a hit commutes with the shift, also where the end is cut off. -/
theorem Outcome.shift_moved (delta : Int) (o : Outcome) (stop d : Nat) :
    (o.moved d).shift delta (stop + d) = (o.shift delta stop).moved d := by
  cases o with
  | hit w =>
    simp only [Outcome.moved, Outcome.shift, Window.moved, Outcome.hit.injEq, Window.mk.injEq,
      true_and]
    omega
  | anchor offset => rfl
  | miss resume => rfl

/-- The first `n` characters of `piece` are those of `text` from offset `d` on. -/
structure Aligned (text piece : Array Char) (d n : Nat) : Prop where
  le_size : n ≤ piece.size
  same : ∀ i, i < n → text[i + d]? = piece[i]?

variable {text piece : Array Char} {d n start stop offset count : Nat}

theorem firstAmong?_add {p q : Nat → Bool}
    (h : ∀ i, start ≤ i → i < start + count → p (i + d) = q i) :
    firstAmong? p (start + d) count = (firstAmong? q start count).map (· + d) := by
  induction count generalizing start with
  | zero => rfl
  | succ count ih =>
    have hlater : firstAmong? p (start + 1 + d) count =
        (firstAmong? q (start + 1) count).map (· + d) :=
      ih fun i hle hlt => h i (by omega) (by omega)
    rw [firstAmong?, firstAmong?, h start (Nat.le_refl _) (by omega), Nat.add_right_comm, hlater]
    split <;> rfl

theorem firstIn?_add {p q : Nat → Bool} (h : ∀ i, start ≤ i → i < stop → p (i + d) = q i) :
    firstIn? p (start + d) (stop + d) = (firstIn? q start stop).map (· + d) := by
  rw [firstIn?, firstIn?, Nat.add_sub_add_right]
  exact firstAmong?_add fun i hle hlt => h i hle (by omega)

theorem runEnd_add {p q : Nat → Bool} (h : ∀ i, start ≤ i → i < stop → p (i + d) = q i) :
    runEnd p (start + d) (stop + d) = runEnd q start stop + d := by
  have hnot : ∀ i, start ≤ i → i < stop → (!p (i + d)) = !q i := by
    intro i hle hlt
    rw [h i hle hlt]
  rw [runEnd, runEnd, firstIn?_add hnot]
  cases firstIn? (fun i => !q i) start stop with
  | none => exact Nat.add_max_add_right start stop d
  | some i => rfl

theorem runStart_congr {p q : Nat → Bool} (h : ∀ i, i < stop → p i = q i) :
    runStart p stop = runStart q stop := by
  induction stop with
  | zero => rfl
  | succ stop ih =>
    rw [runStart, runStart, h stop (Nat.lt_succ_self _), ih fun i hlt => h i (by omega)]

namespace Aligned

theorem of_slice (text : Array Char) (w : Window) (h : w.Within text.size) :
    Aligned text (w.slice text) w.start w.size := by
  refine ⟨Nat.le_of_eq (Window.size_slice h).symm, ?_⟩
  intro i hlt
  have hlt' : i < min w.stop text.size - w.start := by
    rw [Nat.min_eq_left h.2]
    exact hlt
  rw [Window.slice, Array.getElem?_extract, if_pos hlt', Nat.add_comm]

variable (h : Aligned text piece d n)
include h

theorem add_le_size : n = 0 ∨ n + d ≤ text.size := by
  cases n with
  | zero => exact Or.inl rfl
  | succ n =>
    have hread := h.same n (Nat.lt_succ_self n)
    rw [Array.getElem?_eq_getElem (Nat.lt_of_succ_le h.le_size)] at hread
    have hlt : n + d < text.size := (Array.getElem?_eq_some_iff.mp hread).1
    exact Or.inr (by omega)

theorem slice_moved {w : Window} (hstop : w.stop ≤ n) : (w.moved d).slice text = w.slice piece := by
  apply Array.ext_getElem?
  intro i
  have hsize := h.le_size
  rcases h.add_le_size with rfl | htext
  · simp only [Window.slice, Window.moved, Array.getElem?_extract]
    rw [if_neg (by omega), if_neg (by omega)]
  · simp only [Window.slice, Window.moved, Array.getElem?_extract]
    by_cases hlt : i < w.stop - w.start
    · rw [if_pos (by omega), if_pos (by omega), ← h.same _ (by omega)]
      congr 1
      omega
    · rw [if_neg (by omega), if_neg (by omega)]

theorem charAtSatisfies_eq (p : Char → Bool) (hlt : offset < n) :
    charAtSatisfies text p (offset + d) = charAtSatisfies piece p offset := by
  rw [charAtSatisfies, charAtSatisfies, h.same offset hlt]

theorem occursAt_eq (literal : List Char) (hstop : stop ≤ n) :
    occursAt text literal (offset + d) (stop + d) = occursAt piece literal offset stop := by
  rw [Bool.eq_iff_iff, occursAt_iff, occursAt_iff]
  have hle : offset + d + literal.length ≤ stop + d ↔ offset + literal.length ≤ stop := by omega
  rw [hle]
  apply and_congr_right
  intro hcover
  have hslice := h.slice_moved (w := ⟨offset, offset + literal.length⟩)
    (Nat.le_trans hcover hstop)
  rw [Window.moved, Nat.add_right_comm] at hslice
  rw [hslice]

theorem closingEnd?_eq (opening closing : Char) (depth : Nat) (hcount : offset + count ≤ n) :
    closingEnd? text opening closing depth (offset + d) count =
      (closingEnd? piece opening closing depth offset count).map (· + d) := by
  induction count generalizing depth offset with
  | zero => rfl
  | succ count ih =>
    have hlater : ∀ depth', closingEnd? text opening closing depth' (offset + d + 1) count =
        (closingEnd? piece opening closing depth' (offset + 1) count).map (· + d) := by
      intro depth'
      rw [Nat.add_right_comm]
      exact ih depth' (by omega)
    rw [closingEnd?, closingEnd?, h.same offset (by omega)]
    simp only [hlater]
    split
    · rfl
    · split
      · split
        · rw [Option.map_some, Nat.add_right_comm]
        · rfl
      · rfl

theorem firstOf_eq (literals : List (List Char)) {w : Window} (hstop : w.stop ≤ n) :
    Probe.firstOf literals text (w.moved d) = (Probe.firstOf literals piece w).moved d := by
  have hoccurs : ∀ offset, literals.find? (occursAt text · (offset + d) (w.stop + d)) =
      literals.find? (occursAt piece · offset w.stop) := by
    intro offset
    simp only [h.occursAt_eq _ hstop]
  have hfirst : firstIn?
      (fun offset => (literals.find? (occursAt text · offset (w.stop + d))).isSome)
      (w.start + d) (w.stop + d) =
        (firstIn? (fun offset => (literals.find? (occursAt piece · offset w.stop)).isSome)
          w.start w.stop).map (· + d) :=
    firstIn?_add fun offset _ _ => by rw [hoccurs]
  unfold Probe.firstOf
  simp only [Window.moved_start, Window.moved_stop, hfirst]
  cases firstIn? (fun offset => (literals.find? (occursAt piece · offset w.stop)).isSome)
    w.start w.stop with
  | none => rfl
  | some offset =>
    simp only [Option.map_some, hoccurs, Outcome.moved, Window.moved]
    rw [Nat.add_right_comm]

theorem runEnd_eq (p : Nat → Char → Bool) (hstop : stop ≤ n) :
    runEnd (fun i => charAtSatisfies text (p i) i) (start + d) (stop + d) =
      runEnd (fun i => charAtSatisfies piece (p (i + d)) i) start stop + d :=
  runEnd_add fun _ _ hlt => h.charAtSatisfies_eq _ (Nat.lt_of_lt_of_le hlt hstop)

theorem bracket_eq (opening closing : Char) {w : Window} (hstop : w.stop ≤ n) :
    (Probe.bracket opening closing).scan text (w.moved d) =
      ((Probe.bracket opening closing).scan piece w).moved d := by
  unfold Probe.scan
  by_cases hlt : w.start < w.stop
  · have hgroup : closingEnd? text opening closing 1 (w.start + 1 + d)
        (w.stop - (w.start + 1)) =
          (closingEnd? piece opening closing 1 (w.start + 1)
            (w.stop - (w.start + 1))).map (· + d) :=
      h.closingEnd?_eq opening closing 1 (by omega)
    have hcount : w.stop + d - (w.start + d + 1) = w.stop - (w.start + 1) := by omega
    rw [Nat.add_right_comm] at hgroup
    simp only [Window.moved_start, Window.moved_stop, Nat.add_lt_add_iff_right, hcount, hgroup,
      h.same w.start (Nat.lt_of_lt_of_le hlt hstop)]
    split
    · cases closingEnd? piece opening closing 1 (w.start + 1) (w.stop - (w.start + 1)) <;> rfl
    · rfl
  · simp [hlt, Outcome.moved]

omit h in
theorem lineStart_eq (h : Aligned text piece 0 n) (hle : offset ≤ n) :
    lineStartBefore text (min offset text.size) =
      lineStartBefore piece (min offset piece.size) := by
  have hpiece : offset ≤ piece.size := Nat.le_trans hle h.le_size
  have htext : offset ≤ text.size := by
    rcases h.add_le_size with hzero | hsize <;> omega
  rw [Nat.min_eq_left htext, Nat.min_eq_left hpiece]
  apply runStart_congr
  intro i hlt
  rw [← h.same i (Nat.lt_of_lt_of_le hlt hle), Nat.add_zero]

/-- A probe answers in a window of the one text as it does in the other. -/
theorem scan_eq (p : Probe) {w : Window} (hback : d = 0 ∨ p.movesBack = false)
    (hle : w.start ≤ w.stop) (hstop : w.stop ≤ n) :
    p.scan text (w.moved d) = (p.scan piece w).moved d := by
  induction p with
  | literal l =>
    rw [Probe.scan_literal, Probe.scan_literal]
    exact h.firstOf_eq [l] hstop
  | oneOf ls => exact h.firstOf_eq ls hstop
  | oneOfAtStart ls =>
    unfold Probe.scan
    simp only [Window.moved_start, Window.moved_stop, h.occursAt_eq _ hstop]
    cases ls.find? (occursAt piece · w.start w.stop) with
    | none => rfl
    | some l =>
      simp only [Outcome.moved, Window.moved]
      rw [Nat.add_right_comm]
  | run kind mayBeEmpty =>
    have hfirst : ∀ i, (i + d == w.start + d) = (i == w.start) := by
      intro i
      rw [Bool.eq_iff_iff, beq_iff_eq, beq_iff_eq, Nat.add_right_cancel_iff]
    unfold Probe.scan
    simp only [Window.moved_start, Window.moved_stop, h.runEnd_eq _ hstop, hfirst,
      Nat.add_right_cancel_iff]
    split <;> rfl
  | spacedWord =>
    unfold Probe.scan
    simp only [Window.moved_start, Window.moved_stop, h.runEnd_eq (fun _ => _) hstop,
      Nat.add_right_cancel_iff]
    split <;> rfl
  | bracket opening closing => exact h.bracket_eq opening closing hstop
  | backward count =>
    obtain rfl := hback.resolve_right Bool.noConfusion
    rfl
  | lineStart =>
    obtain rfl := hback.resolve_right Bool.noConfusion
    have hline := h.lineStart_eq (Nat.le_trans hle hstop)
    unfold Probe.scan
    rw [Window.moved_zero, hline]
    rfl
  | shifted inner delta ih =>
    unfold Probe.scan
    rw [ih hback, Window.moved_stop, Outcome.shift_moved]
  | orElse first second ihfirst ihsecond =>
    have hfirst := ihfirst (hback.imp_right fun hp => (Bool.or_eq_false_iff.mp hp).1)
    have hsecond := ihsecond (hback.imp_right fun hp => (Bool.or_eq_false_iff.mp hp).2)
    unfold Probe.scan
    rw [hfirst, hsecond]
    cases first.scan piece w <;> rfl

theorem attempt_eq (s : Step) (record : Array Char → Capture)
    {follow' follow : List Capture → Window → List Match × Nat} (before : List Capture) {pos : Nat}
    (hback : d = 0 ∨ s.probe.movesBack = false) (hle : pos ≤ stop) (hstop : stop ≤ n)
    (hfollow : ∀ before w, w.start ≤ w.stop → w.stop ≤ n →
      follow' before (w.moved d) = ((follow before w).1, (follow before w).2 + d)) :
    s.attempt record follow' text before (stop + d) (pos + d) =
      ((s.attempt record follow piece before stop pos).1,
        (s.attempt record follow piece before stop pos).2 + d) := by
  have hbounds := s.probe.scan_inBounds piece (w := ⟨pos, stop⟩) hle
  have hprobe := h.scan_eq s.probe (w := ⟨pos, stop⟩) hback hle hstop
  cases hscan : s.probe.scan piece ⟨pos, stop⟩ with
  | hit hit =>
    rw [hscan] at hbounds hprobe
    obtain ⟨-, hnext, hend⟩ := s.windowAfter_bounds hbounds
    have hkept : s.kept record text (hit.moved d) = s.kept record piece hit := by
      rw [Step.kept, Step.kept, h.slice_moved (Nat.le_trans hbounds.2.2 hstop)]
    have hwindow : s.windowAfter (hit.moved d) (stop + d) = (s.windowAfter hit stop).moved d := by
      unfold Step.windowAfter
      split <;> rfl
    rw [Step.attempt_of_hit _ _ hprobe, Step.attempt_of_hit _ _ hscan, hkept, hwindow,
      hfollow _ _ hnext (Nat.le_trans hend hstop), Window.moved_stop, Nat.add_max_add_right]
  | anchor offset =>
    rw [hscan] at hbounds hprobe
    obtain ⟨hnext, hend⟩ := s.windowAt_bounds (Nat.le_trans hbounds hle)
    have hwindow : s.windowAt (offset + d) (stop + d) = (s.windowAt offset stop).moved d := by
      unfold Step.windowAt
      split <;> rfl
    rw [Step.attempt_of_anchor _ _ hprobe, Step.attempt_of_anchor _ _ hscan, hwindow,
      hfollow _ _ hnext (Nat.le_trans hend hstop), Nat.add_max_add_right]
  | miss resume =>
    rw [hscan] at hprobe
    rw [Step.attempt_of_miss _ _ hprobe, Step.attempt_of_miss _ _ hscan]

/-- Steps that are followed in a window of the one text find what they find in the other, and go on
from the shifted position. What they capture and rescan is the same text in both. -/
theorem follow_eq (steps : List Step) (before : List Capture) {w : Window}
    (hback : ∀ s ∈ steps, d = 0 ∨ s.probe.movesBack = false) (hle : w.start ≤ w.stop)
    (hstop : w.stop ≤ n) :
    follow steps text before (w.moved d) =
      ((follow steps piece before w).1, (follow steps piece before w).2 + d) := by
  induction steps generalizing before w with
  | nil => rfl
  | cons s rest ih =>
    have hrest : ∀ t ∈ rest, d = 0 ∨ t.probe.movesBack = false :=
      fun t ht => hback t (List.mem_cons_of_mem s ht)
    rw [follow_cons, follow_cons, Window.moved_stop]
    have hattempt : ∀ pos, w.start ≤ pos → pos < w.stop →
        s.attempt (record s) (follow rest text) text before (w.stop + d) (pos + d) =
          ((s.attempt (record s) (follow rest piece) piece before w.stop pos).1.map id,
            (s.attempt (record s) (follow rest piece) piece before w.stop pos).2 + d) := by
      intro pos _ hlt
      rw [List.map_id]
      exact h.attempt_eq s (record s) before (hback s List.mem_cons_self) (Nat.le_of_lt hlt) hstop
        fun before' w' hle' hstop' => ih before' hrest hle' hstop'
    rw [s.attempts_map id d hattempt, List.map_id]

theorem search_eq (steps : List Step) {w : Window}
    (hback : ∀ s ∈ steps, d = 0 ∨ s.probe.movesBack = false) (hstop : w.stop ≤ n) :
    search steps text (w.moved d) = search steps piece w := by
  have hvisit : ∀ pos, w.start ≤ pos → pos < w.stop →
      follow steps text [] ⟨pos + d, w.stop + d⟩ =
        ((follow steps piece [] ⟨pos, w.stop⟩).1.map id,
          (follow steps piece [] ⟨pos, w.stop⟩).2 + d) := by
    intro pos _ hlt
    rw [List.map_id]
    exact h.follow_eq steps [] (w := ⟨pos, w.stop⟩) hback (Nat.le_of_lt hlt) hstop
  unfold search
  rw [Window.moved_start, Window.moved_stop, sweep_map id d hvisit, List.map_id]

end Aligned

end Scan
end Autocomplete
