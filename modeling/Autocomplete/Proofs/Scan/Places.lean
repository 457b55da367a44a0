import Autocomplete.Proofs.Scan.Bounds
import Autocomplete.Proofs.Scan.Looping
import Mathlib.Data.List.Basic

/-!
# From one occurrence of a literal to the next

A rule that begins with a literal goes from one occurrence of it to the next, and skips those that
begin before the place up to which the last occurrence it tried was read. So the occurrences that
are tried, and with them all that the rule finds, are determined by the reaches alone.
-/

namespace Autocomplete
namespace Scan

variable {α : Type} {start stop : Nat}

/-- The visit of a position: a place with the property `p` is tried, and read up to its reach. -/
def tryPlace (p : Nat → Bool) (reach : Nat → Nat) (pos : Nat) : List Nat × Nat :=
  if p pos then ([pos], reach pos) else ([], pos)

/-- The places of `[start, stop)` with the property `p` that are tried from left to right, where
each one tried hides those inside its reach. -/
def triedPlaces (p : Nat → Bool) (reach : Nat → Nat) (start stop : Nat) : List Nat :=
  (sweep (tryPlace p reach) start stop).1

/-- The visit that goes straight to the next place with the property. -/
def visitFirst (p : Nat → Bool) (found : Nat → List α) (reach : Nat → Nat) (stop pos : Nat) :
    List α × Nat :=
  match firstIn? p pos stop with
  | some place => (found place, reach place)
  | none => ([], stop)

section

variable {p : Nat → Bool} {found : Nat → List α} {reach : Nat → Nat}

theorem triedPlaces_of_le (h : stop ≤ start) : triedPlaces p reach start stop = [] := by
  rw [triedPlaces, sweep_of_le _ h]

theorem triedPlaces_of_pos (hlt : start < stop) (hp : p start = true) (h : start < reach start) :
    triedPlaces p reach start stop = start :: triedPlaces p reach (reach start) stop := by
  have hvisit : tryPlace p reach start = ([start], reach start) := if_pos hp
  rw [triedPlaces, sweep_of_lt _ hlt, hvisit, Nat.max_eq_left h]
  rfl

theorem triedPlaces_of_neg (hlt : start < stop) (hp : p start = false) :
    triedPlaces p reach start stop = triedPlaces p reach (start + 1) stop := by
  have hvisit : tryPlace p reach start = ([], start) := if_neg (by simp [hp])
  rw [triedPlaces, sweep_of_lt _ hlt, hvisit, Nat.max_eq_right (Nat.le_succ start)]
  rfl

theorem visitFirst_of_pos (hlt : start < stop) (hp : p start = true) :
    visitFirst p found reach stop start = (found start, reach start) := by
  rw [visitFirst, firstIn?_of_lt hlt, if_pos hp]

theorem visitFirst_of_neg (hlt : start < stop) (hp : p start = false) :
    visitFirst p found reach stop start = visitFirst p found reach stop (start + 1) := by
  have hfirst : firstIn? p start stop = firstIn? p (start + 1) stop := by
    rw [firstIn?_of_lt hlt, if_neg (by simp [hp])]
  rw [visitFirst, hfirst, visitFirst]

theorem visitFirst_of_le (h : stop ≤ start) : visitFirst p found reach stop start = ([], stop) := by
  rw [visitFirst, firstIn?_of_le h]

theorem lt_visitFirst_snd (found : Nat → List α) (hreach : ∀ pos, p pos = true → pos < reach pos)
    (hlt : start < stop) : start < (visitFirst p found reach stop start).2 := by
  unfold visitFirst
  split
  · rename_i place hplace
    obtain ⟨hle, -, hp, -⟩ := firstIn?_eq_some hplace
    exact Nat.lt_of_le_of_lt hle (hreach place hp)
  · exact hlt

/-- A sweep that goes straight to the next place may as well begin one position further on, because
its first visit is the same. -/
theorem sweep_visitFirst_of_neg (hreach : ∀ pos, p pos = true → pos < reach pos)
    (hlt : start < stop) (hp : p start = false) :
    (sweep (visitFirst p found reach stop) start stop).1 =
      (sweep (visitFirst p found reach stop) (start + 1) stop).1 := by
  rw [sweep_of_lt _ hlt, visitFirst_of_neg hlt hp]
  by_cases hnext : start + 1 < stop
  · have hbeyond := lt_visitFirst_snd found hreach hnext
    rw [sweep_of_lt _ hnext, Nat.max_eq_left (by omega), Nat.max_eq_left (by omega)]
  · have hle : stop ≤ start + 1 := Nat.le_of_not_lt hnext
    rw [visitFirst_of_le hle, sweep_of_le _ hle, sweep_of_le _ (Nat.le_max_left _ _)]
    rfl

/-- A sweep that goes straight from place to place finds what is found at the places it tries. -/
theorem sweep_visitFirst (hreach : ∀ pos, p pos = true → pos < reach pos) (start : Nat) :
    (sweep (visitFirst p found reach stop) start stop).1 =
      (triedPlaces p reach start stop).flatMap found := by
  induction hn : stop - start using Nat.strongRecOn generalizing start with
  | ind n ih =>
    by_cases hlt : start < stop
    · cases hp : p start with
      | true =>
        have hbeyond := hreach start hp
        rw [sweep_of_lt _ hlt, visitFirst_of_pos hlt hp, triedPlaces_of_pos hlt hp hbeyond,
          List.flatMap_cons, Nat.max_eq_left hbeyond, ih (stop - reach start) (by omega) _ rfl]
      | false =>
        rw [sweep_visitFirst_of_neg hreach hlt hp, triedPlaces_of_neg hlt hp,
          ih (stop - (start + 1)) (by omega) _ rfl]
    · have hle : stop ≤ start := Nat.le_of_not_lt hlt
      rw [sweep_of_le _ hle, triedPlaces_of_le hle, List.flatMap_nil]

theorem mem_triedPlaces_iff (hreach : ∀ pos, p pos = true → pos < reach pos) (place : Nat) :
    place ∈ triedPlaces p reach start stop ↔ start ≤ place ∧ place < stop ∧ p place = true ∧
      ∀ earlier ∈ triedPlaces p reach start stop, earlier < place → reach earlier ≤ place := by
  -- on the room that is left: a place that is tried may skip several that are not
  induction hn : stop - start using Nat.strongRecOn generalizing start place with
  | ind n ih =>
    by_cases hlt : start < stop
    · cases hp : p start with
      | true =>
        have hbeyond := hreach start hp
        have hlater := fun place => ih (stop - reach start) (by omega) place rfl
        rw [triedPlaces_of_pos hlt hp hbeyond]
        simp only [List.mem_cons, forall_eq_or_imp]
        constructor
        · rintro (rfl | hmem)
          · refine ⟨Nat.le_refl _, hlt, hp, fun h => absurd h (Nat.lt_irrefl _), ?_⟩
            intro earlier hearlier
            have hge := ((hlater earlier).mp hearlier).1
            omega
          · obtain ⟨hge, hplace, hpplace, hhidden⟩ := (hlater place).mp hmem
            exact ⟨by omega, hplace, hpplace, fun _ => hge, hhidden⟩
        · rintro ⟨hge, hplace, hpplace, hfirst, hhidden⟩
          rcases Nat.eq_or_lt_of_le hge with rfl | hgt
          · exact .inl rfl
          · exact .inr ((hlater place).mpr ⟨hfirst hgt, hplace, hpplace, hhidden⟩)
      | false =>
        rw [triedPlaces_of_neg hlt hp, ih (stop - (start + 1)) (by omega) place rfl]
        apply and_congr_left
        rintro ⟨-, hpplace, -⟩
        have hne : start ≠ place := by
          rintro rfl
          exact absurd (hp.symm.trans hpplace) Bool.false_ne_true
        omega
    · have hle : stop ≤ start := Nat.le_of_not_lt hlt
      simp [triedPlaces_of_le hle]
      omega

theorem pairwise_triedPlaces (hreach : ∀ pos, p pos = true → pos < reach pos) :
    (triedPlaces p reach start stop).Pairwise (· < ·) := by
  induction hn : stop - start using Nat.strongRecOn generalizing start with
  | ind n ih =>
    by_cases hlt : start < stop
    · cases hp : p start with
      | true =>
        have hbeyond := hreach start hp
        rw [triedPlaces_of_pos hlt hp hbeyond, List.pairwise_cons]
        refine ⟨fun place hplace => ?_, ih (stop - reach start) (by omega) rfl⟩
        have hge := ((mem_triedPlaces_iff hreach place).mp hplace).1
        omega
      | false =>
        rw [triedPlaces_of_neg hlt hp]
        exact ih (stop - (start + 1)) (by omega) rfl
    · rw [triedPlaces_of_le (Nat.le_of_not_lt hlt)]
      exact List.Pairwise.nil

end

/-- An occurrence of a literal is tried just where none tried before it reaches beyond it. -/
theorem mem_triedPlaces_literal_iff {l : List Char} (hl : l ≠ []) {text : Array Char}
    {reach : Nat → Nat} (hreach : ∀ place, occursAt text l place stop = true →
      place + l.length ≤ reach place) {place : Nat} :
    place ∈ triedPlaces (occursAt text l · stop) reach 0 stop ↔
      occursAt text l place stop = true ∧
        ∀ earlier ∈ triedPlaces (occursAt text l · stop) reach 0 stop, earlier < place →
          reach earlier ≤ place := by
  have hlength : 0 < l.length := List.length_pos_iff.mpr hl
  have hbeyond : ∀ place, occursAt text l place stop = true → place < reach place := by
    intro place hplace
    have hle := hreach place hplace
    omega
  rw [mem_triedPlaces_iff hbeyond]
  constructor
  · rintro ⟨-, -, hplace, hhidden⟩
    exact ⟨hplace, hhidden⟩
  · rintro ⟨hplace, hhidden⟩
    exact ⟨Nat.zero_le _, lt_of_occursAt hl hplace, hplace, hhidden⟩

theorem mem_triedPlaces_of_not_overlapping {l : List Char} (hl : l ≠ [])
    (hoverlap : ∀ d < l.length, 0 < d → ¬l.drop d <+: l) {text : Array Char} {place : Nat} :
    place ∈ triedPlaces (occursAt text l · stop) (· + l.length) 0 stop ↔
      occursAt text l place stop = true := by
  have htried : ∀ {place}, place ∈ triedPlaces (occursAt text l · stop) (· + l.length) 0 stop ↔ _ :=
    mem_triedPlaces_literal_iff hl fun _ _ => Nat.le_refl _
  rw [htried]
  refine ⟨And.left, fun hplace => ⟨hplace, fun earlier hearlier hlt => ?_⟩⟩
  apply Nat.le_of_not_lt
  intro hinside
  obtain ⟨d, rfl⟩ := Nat.exists_eq_add_of_le (Nat.le_of_lt hlt)
  exact hoverlap d (by omega) (by omega) (drop_prefix_of_occursAt (htried.mp hearlier).1 hplace)

/-- A rule that begins with a literal finds what its other steps find after the occurrences that it
tries. It goes on from the place up to which they have read, or from the end of the literal where
they move back. -/
theorem search_literal {β : Type} {l : List Char} (hl : l ≠ []) {rest : List Step}
    {text : Array Char} {w : Window} {found? : Nat → Option β} {f : β → Match}
    {back reach : Nat → Nat}
    (hfollow : ∀ place, occursAt text l place w.stop = true →
      follow rest text [] ⟨place + l.length, w.stop⟩ = ((found? place).toList.map f, back place))
    (hreach : ∀ place, occursAt text l place w.stop = true →
      max (back place) (place + l.length) = reach place) :
    search (({ probe := .literal l } : Step).repeating :: rest) text w =
      ((triedPlaces (occursAt text l · w.stop) reach w.start w.stop).filterMap found?).map f := by
  have hlength : 0 < l.length := List.length_pos_iff.mpr hl
  have hbeyond : ∀ place, occursAt text l place w.stop = true → place < reach place := by
    intro place hplace
    have hle := hreach place hplace
    omega
  rw [search_repeating, search_cons, List.map_filterMap, List.filterMap_eq_flatMap_toList,
    ← sweep_visitFirst hbeyond]
  congr 1
  apply sweep_congr
  intro pos _ _
  have hscan : (Probe.literal l).scan text ⟨pos, w.stop⟩ =
      match firstIn? (occursAt text l · w.stop) pos w.stop with
      | some place => .hit ⟨place, place + l.length⟩
      | none => .miss w.stop := rfl
  rw [visitFirst]
  cases hfirst : firstIn? (occursAt text l · w.stop) pos w.stop with
  | none =>
    rw [hfirst] at hscan
    rw [Step.attempt_of_miss _ _ hscan]
  | some place =>
    have hplace : occursAt text l place w.stop = true := (firstIn?_eq_some hfirst).2.2.1
    have hwindow : Step.windowAfter { probe := .literal l } ⟨place, place + l.length⟩ w.stop =
        ⟨place + l.length, w.stop⟩ := rfl
    rw [hfirst] at hscan
    rw [Step.attempt_of_hit _ _ hscan, hwindow]
    simp only [Step.kept, Bool.false_eq_true, if_false, List.append_nil, hfollow place hplace,
      hreach place hplace, Option.toList_map]

theorem search_oneOf (l : List Char) (rest : List Step) (text : Array Char) (w : Window) :
    search (({ probe := .oneOf [l] } : Step).repeating :: rest) text w =
      search (({ probe := .literal l } : Step).repeating :: rest) text w := by
  rw [search_repeating, search_repeating, search_cons, search_cons]
  congr 1
  apply sweep_congr
  intro pos _ _
  rw [Step.attempt, Step.attempt, Probe.scan_literal]
  rfl

end Scan
end Autocomplete
