import Autocomplete.Proofs.Scan.Ahead
import Mathlib.Data.Set.Basic
import Mathlib.Order.Bounds.Basic

/-!
# The first of several literals

A search for several literals goes from place to place, and at each place along the list. So it
hits the leftmost place at which any of them occurs inside the window, and of the literals that
occur there the first one of the list, whichever of them begin alike or overlap.
-/

namespace Autocomplete
namespace Scan

variable {text : Array Char} {literals : List (List Char)} {l : List Char} {place stop : Nat}

/-- The literal occurs at `place`, and ends by `stop`. -/
def OccursWithin (text : Array Char) (l : List Char) (place stop : Nat) : Prop :=
  place + l.length ≤ stop ∧ (Window.slice ⟨place, place + l.length⟩ text).toList = l

/-- Of the literals that occur at `place`, `l` is the first one of the list. -/
def IsFirstAt (text : Array Char) (literals : List (List Char)) (place stop : Nat) (l : List Char) :
    Prop :=
  OccursWithin text l place stop ∧ ∃ earlier later, literals = earlier ++ l :: later ∧
    ∀ other ∈ earlier, ¬OccursWithin text other place stop

/-- The places of a window at which one of the literals occurs inside it. -/
def occurrences (text : Array Char) (literals : List (List Char)) (w : Window) : Set Nat :=
  {place | w.start ≤ place ∧ place < w.stop ∧ ∃ l ∈ literals, OccursWithin text l place w.stop}

section

variable {p : Nat → Bool} {start i : Nat}

theorem firstIn?_eq_none_iff :
    firstIn? p start stop = none ↔ {i | start ≤ i ∧ i < stop ∧ p i = true} = ∅ := by
  rw [Set.eq_empty_iff_forall_notMem]
  constructor
  · rintro hnone i ⟨hle, hlt, hp⟩
    exact Bool.false_ne_true ((firstIn?_eq_none hnone i hle hlt).symm.trans hp)
  · intro hempty
    rw [Option.eq_none_iff_forall_ne_some]
    intro i hsome
    obtain ⟨hle, hlt, hp, -⟩ := firstIn?_eq_some hsome
    exact hempty i ⟨hle, hlt, hp⟩

theorem firstIn?_eq_some_iff_isLeast :
    firstIn? p start stop = some i ↔ IsLeast {i | start ≤ i ∧ i < stop ∧ p i = true} i := by
  have hleast : ∀ {i}, firstIn? p start stop = some i →
      IsLeast {i | start ≤ i ∧ i < stop ∧ p i = true} i := by
    intro i hsome
    obtain ⟨hle, hlt, hp, hfirst⟩ := firstIn?_eq_some hsome
    refine ⟨⟨hle, hlt, hp⟩, ?_⟩
    rintro j ⟨hj, -, hpj⟩
    apply Nat.le_of_not_lt
    intro hbefore
    exact Bool.false_ne_true ((hfirst j hj hbefore).symm.trans hpj)
  refine ⟨hleast, fun h => ?_⟩
  cases hfirst : firstIn? p start stop with
  | none =>
    have hmem := h.1
    rw [firstIn?_eq_none_iff.mp hfirst] at hmem
    exact hmem.elim
  | some j => rw [(hleast hfirst).unique h]

end

theorem find?_occursAt_eq_some_iff :
    literals.find? (occursAt text · place stop) = some l ↔
      IsFirstAt text literals place stop l := by
  rw [List.find?_eq_some_iff_append]
  simp only [Bool.not_eq_true', ← Bool.not_eq_true, occursAt_iff]
  rfl

theorem find?_occursAt_eq_none_iff :
    literals.find? (occursAt text · place stop) = none ↔
      ∀ l ∈ literals, ¬OccursWithin text l place stop := by
  simp only [List.find?_eq_none, occursAt_iff]
  rfl

theorem isSome_find?_occursAt :
    (literals.find? (occursAt text · place stop)).isSome = true ↔
      ∃ l ∈ literals, OccursWithin text l place stop := by
  simp only [List.find?_isSome, occursAt_iff]
  rfl

theorem IsFirstAt.mem (h : IsFirstAt text literals place stop l) : l ∈ literals := by
  obtain ⟨-, earlier, later, rfl, -⟩ := h
  exact List.mem_append_right _ List.mem_cons_self

theorem IsFirstAt.unique {l' : List Char} (h : IsFirstAt text literals place stop l)
    (h' : IsFirstAt text literals place stop l') : l = l' :=
  Option.some.inj
    ((find?_occursAt_eq_some_iff.mpr h).symm.trans (find?_occursAt_eq_some_iff.mpr h'))

/-- An outcome that is a miss in one case, and in the other one a hit at the only place there is, is
told by the case. -/
theorem Outcome.eq_hit_and_miss_iff {outcome : Outcome} {Missed : Prop} {IsHit : Window → Prop}
    {resume : Nat}
    (h : Missed ∧ outcome = .miss resume ∨ ∃ hit, IsHit hit ∧ outcome = .hit hit)
    (hmissed : Missed → ∀ hit, ¬IsHit hit)
    (hunique : ∀ hit hit', IsHit hit → IsHit hit' → hit = hit') :
    (∀ hit, outcome = .hit hit ↔ IsHit hit) ∧
    ∀ resume', outcome = .miss resume' ↔ Missed ∧ resume' = resume := by
  rcases h with ⟨hm, rfl⟩ | ⟨hit, hhit, rfl⟩
  · refine ⟨fun hit => ⟨(nomatch ·), fun hhit => absurd hhit (hmissed hm hit)⟩, ?_⟩
    intro resume'
    rw [Outcome.miss.injEq, and_iff_right hm, eq_comm]
  · constructor
    · intro hit'
      rw [Outcome.hit.injEq]
      constructor
      · rintro rfl
        exact hhit
      · exact hunique hit hit' hhit
    · intro resume'
      exact ⟨(nomatch ·), fun hmiss => absurd hhit (hmissed hmiss.1 hit)⟩

namespace Probe

variable {w : Window}

theorem firstIn?_eq_none_iff_occurrences :
    firstIn? (fun offset => (literals.find? (occursAt text · offset w.stop)).isSome)
      w.start w.stop = none ↔ occurrences text literals w = ∅ := by
  simp only [firstIn?_eq_none_iff, isSome_find?_occursAt]
  rfl

theorem firstIn?_eq_some_iff_occurrences :
    firstIn? (fun offset => (literals.find? (occursAt text · offset w.stop)).isSome)
      w.start w.stop = some place ↔ IsLeast (occurrences text literals w) place := by
  simp only [firstIn?_eq_some_iff_isLeast, isSome_find?_occursAt]
  rfl

/-- A window without any of the literals is missed, and any other is hit at the leftmost of them. -/
theorem firstOf_cases (text : Array Char) (literals : List (List Char)) (w : Window) :
    (occurrences text literals w = ∅ ∧ firstOf literals text w = .miss w.stop) ∨
    ∃ place l, IsLeast (occurrences text literals w) place ∧
      IsFirstAt text literals place w.stop l ∧
      firstOf literals text w = .hit ⟨place, place + l.length⟩ := by
  unfold firstOf
  dsimp only
  cases hfirst : firstIn? (fun offset => (literals.find? (occursAt text · offset w.stop)).isSome)
    w.start w.stop with
  | none => exact .inl ⟨firstIn?_eq_none_iff_occurrences.mp hfirst, rfl⟩
  | some place =>
    have hleast := firstIn?_eq_some_iff_occurrences.mp hfirst
    have hsome := (firstIn?_eq_some hfirst).2.2.1
    obtain ⟨l, hl⟩ := Option.isSome_iff_exists.mp hsome
    refine .inr ⟨place, l, hleast, find?_occursAt_eq_some_iff.mp hl, ?_⟩
    dsimp only
    rw [hl, Option.getD_some]

theorem firstOf_eq_hit_and_miss_iff :
    (∀ hit, firstOf literals text w = .hit hit ↔
      ∃ place l, IsLeast (occurrences text literals w) place ∧
        IsFirstAt text literals place w.stop l ∧ hit = ⟨place, place + l.length⟩) ∧
    ∀ resume, firstOf literals text w = .miss resume ↔
      occurrences text literals w = ∅ ∧ resume = w.stop := by
  apply Outcome.eq_hit_and_miss_iff
  · rcases firstOf_cases text literals w with hmiss | ⟨place, l, hleast, hfirst, hhit⟩
    · exact .inl hmiss
    · exact .inr ⟨_, ⟨place, l, hleast, hfirst, rfl⟩, hhit⟩
  · rintro hempty hit ⟨place, l, hleast, -⟩
    rw [hempty] at hleast
    exact hleast.1.elim
  · rintro _ _ ⟨place, l, hleast, hfirst, rfl⟩ ⟨place', l', hleast', hfirst', rfl⟩
    obtain rfl := hleast.unique hleast'
    rw [hfirst.unique hfirst']

/-- At the start of a window there is one place only, and the order of the list decides. -/
theorem scan_oneOfAtStart_cases (text : Array Char) (literals : List (List Char)) (w : Window) :
    ((∀ l ∈ literals, ¬OccursWithin text l w.start w.stop) ∧
      (oneOfAtStart literals).scan text w = .miss w.start) ∨
    ∃ l, IsFirstAt text literals w.start w.stop l ∧
      (oneOfAtStart literals).scan text w = .hit ⟨w.start, w.start + l.length⟩ := by
  unfold scan
  cases hfind : literals.find? (occursAt text · w.start w.stop) with
  | none => exact .inl ⟨find?_occursAt_eq_none_iff.mp hfind, rfl⟩
  | some l => exact .inr ⟨l, find?_occursAt_eq_some_iff.mp hfind, rfl⟩

theorem scan_oneOfAtStart_eq_hit_and_miss_iff :
    (∀ hit, (oneOfAtStart literals).scan text w = .hit hit ↔
      ∃ l, IsFirstAt text literals w.start w.stop l ∧ hit = ⟨w.start, w.start + l.length⟩) ∧
    ∀ resume, (oneOfAtStart literals).scan text w = .miss resume ↔
      (∀ l ∈ literals, ¬OccursWithin text l w.start w.stop) ∧ resume = w.start := by
  apply Outcome.eq_hit_and_miss_iff
  · rcases scan_oneOfAtStart_cases text literals w with hmiss | ⟨l, hfirst, hhit⟩
    · exact .inl hmiss
    · exact .inr ⟨_, ⟨l, hfirst, rfl⟩, hhit⟩
  · rintro hnone hit ⟨l, hfirst, -⟩
    exact hnone l hfirst.mem hfirst.1
  · rintro _ _ ⟨l, hfirst, rfl⟩ ⟨l', hfirst', rfl⟩
    rw [hfirst.unique hfirst']

theorem scan_oneOf_of_scan_oneOfAtStart (hlt : w.start < w.stop) {outcome : Outcome}
    (hmatch : outcome.isMatch = true) (h : (oneOfAtStart literals).scan text w = outcome) :
    (oneOf literals).scan text w = outcome := by
  rcases scan_oneOfAtStart_cases text literals w with ⟨-, hmiss⟩ | ⟨l, hfirst, hhit⟩
  · rw [← h, hmiss] at hmatch
    exact absurd hmatch Bool.false_ne_true
  · have hleast : IsLeast (occurrences text literals w) w.start :=
      ⟨⟨Nat.le_refl _, hlt, l, hfirst.mem, hfirst.1⟩, fun place hplace => hplace.1⟩
    rw [← h, hhit]
    exact (firstOf_eq_hit_and_miss_iff.1 _).mpr ⟨w.start, l, hleast, hfirst, rfl⟩

end Probe

/-- A window is hit at the leftmost place at which any of the literals occurs inside it, for the
length of the first one of the list that occurs there, and missed up to its end just where none
occurs. A single literal is a list of one. The search that does not go beyond the start of the
window agrees with it wherever it succeeds, unless the window is empty, and fails just where none of
the literals occurs there. -/
theorem literals_are_found_leftmost (literals : List (List Char)) (text : String) {w : Window}
    (h : w.Within text.length) :
    let chars := text.toList.toArray
    (∀ hit : Window, (Probe.oneOf literals).scanIn text w = .ok (.hit hit) ↔
      ∃ place l, IsLeast (occurrences chars literals w) place ∧
        IsFirstAt chars literals place w.stop l ∧ hit = ⟨place, place + l.length⟩) ∧
    (∀ resume, (Probe.oneOf literals).scanIn text w = .ok (.miss resume) ↔
      occurrences chars literals w = ∅ ∧ resume = w.stop) ∧
    (∀ l, (Probe.literal l).scanIn text w = (Probe.oneOf [l]).scanIn text w) ∧
    (w.start < w.stop → ∀ outcome : Outcome, outcome.isMatch = true →
      (Probe.oneOfAtStart literals).scanIn text w = .ok outcome →
        (Probe.oneOf literals).scanIn text w = .ok outcome) ∧
    (∀ hit : Window, (Probe.oneOfAtStart literals).scanIn text w = .ok (.hit hit) ↔
      ∃ l, IsFirstAt chars literals w.start w.stop l ∧ hit = ⟨w.start, w.start + l.length⟩) ∧
    (∀ resume, (Probe.oneOfAtStart literals).scanIn text w = .ok (.miss resume) ↔
      (∀ l ∈ literals, ¬OccursWithin chars l w.start w.stop) ∧ resume = w.start) := by
  intro chars
  simp only [Probe.scanIn_of_within _ h, Except.ok.injEq]
  refine ⟨Probe.firstOf_eq_hit_and_miss_iff.1, Probe.firstOf_eq_hit_and_miss_iff.2,
    fun l => Probe.scan_literal l _ w, ?_, Probe.scan_oneOfAtStart_eq_hit_and_miss_iff⟩
  intro hlt outcome hmatch hstart
  exact Probe.scan_oneOf_of_scan_oneOfAtStart hlt hmatch hstart

def nestedLiterals : List (List Char) := ["abab".toList, "ab".toList, "a".toList]

/-- The longest one would go beyond the window, and the next one wins over the last. -/
theorem literals_are_found_leftmost_in_cut_text :
    (Window.Within ⟨0, 4⟩ "xabab".length ∧ Window.Within ⟨1, 4⟩ "xabab".length ∧ 1 < 4) ∧
    (∃ place l, IsLeast (occurrences "xabab".toList.toArray nestedLiterals ⟨0, 4⟩) place ∧
      IsFirstAt "xabab".toList.toArray nestedLiterals place 4 l ∧
      (⟨1, 3⟩ : Window) = ⟨place, place + l.length⟩) ∧
    (∀ l ∈ nestedLiterals, ¬OccursWithin "xabab".toList.toArray l 0 4) ∧
    (Probe.oneOf nestedLiterals).scanIn "xabab" ⟨1, 4⟩ = .ok (.hit ⟨1, 3⟩) := by
  have hwithin : Window.Within ⟨0, 4⟩ "xabab".length := by decide
  have hwithin' : Window.Within ⟨1, 4⟩ "xabab".length := by decide
  obtain ⟨hhit, -, -, -, -, hmiss⟩ := literals_are_found_leftmost nestedLiterals "xabab" hwithin
  obtain ⟨-, -, -, hagree, -⟩ := literals_are_found_leftmost nestedLiterals "xabab" hwithin'
  refine ⟨⟨hwithin, hwithin', by decide⟩, (hhit ⟨1, 3⟩).mp rfl, ((hmiss 0).mp rfl).1, ?_⟩
  exact hagree (by decide) (.hit ⟨1, 3⟩) rfl rfl

end Scan
end Autocomplete
