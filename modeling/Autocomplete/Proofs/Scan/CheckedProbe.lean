import Autocomplete.Proofs.Scan.Bounds

/-!
# Probes that may only read inside the text

The probes of the library are total: an offset outside the text reads as no character. Here every
probe is run once more by reads that fail outside the text, with the literals compared by cutting
out the text that they would cover, and a depth that must not fall below zero. In a window of the
text no such probe fails, and it answers as the total one does.
-/

namespace Autocomplete
namespace Scan

open Text

variable {text : Array Char} {start stop offset : Nat}

def Window.sliceChecked (w : Window) (text : Array Char) : Option (Array Char) :=
  if w.Within text.size then some (w.slice text) else none

def occursAtChecked (text : Array Char) (literal : List Char) (offset stop : Nat) : Option Bool :=
  if offset + literal.length ≤ stop then do
    let covered ← Window.sliceChecked ⟨offset, offset + literal.length⟩ text
    return covered.toList == literal
  else return false

theorem occursAtChecked_eq (literal : List Char) (offset : Nat) (h : stop ≤ text.size) :
    occursAtChecked text literal offset stop = some (occursAt text literal offset stop) := by
  have hiff := occursAt_iff text literal offset stop
  unfold occursAtChecked
  split
  · rename_i hle
    have hwithin : Window.Within ⟨offset, offset + literal.length⟩ text.size :=
      ⟨Nat.le_add_right _ _, Nat.le_trans hle h⟩
    rw [Window.sliceChecked, if_pos hwithin, Option.bind_eq_bind, Option.bind_some]
    congr 1
    rw [Bool.eq_iff_iff, hiff, beq_iff_eq]
    exact ⟨fun heq => ⟨hle, heq⟩, fun heq => heq.2⟩
  · rename_i hle
    have hfalse : occursAt text literal offset stop = false := by
      rw [← Bool.not_eq_true, hiff]
      exact fun hcover => hle hcover.1
    rw [hfalse]
    rfl

def firstAmongChecked (p : Nat → Option Bool) : (start count : Nat) → Option (Option Nat)
  | _, 0 => some none
  | start, count + 1 => do
    if ← p start then return some start
    else firstAmongChecked p (start + 1) count

theorem firstAmongChecked_eq {p' : Nat → Option Bool} {p : Nat → Bool} {count : Nat}
    (h : ∀ i, start ≤ i → i < start + count → p' i = some (p i)) :
    firstAmongChecked p' start count = some (firstAmong? p start count) := by
  induction count generalizing start with
  | zero => rfl
  | succ count ih =>
    have hlater : firstAmongChecked p' (start + 1) count = some (firstAmong? p (start + 1) count) :=
      ih fun i hle hlt => h i (by omega) (by omega)
    rw [firstAmongChecked, firstAmong?, h start (Nat.le_refl _) (by omega), hlater]
    cases p start <;> rfl

def runEndChecked (p : Nat → Option Bool) (start stop : Nat) : Option Nat := do
  let first ← firstAmongChecked (fun i => (p i).map not) start (stop - start)
  return first.getD (max start stop)

theorem runEndChecked_eq {p' : Nat → Option Bool} {p : Nat → Bool}
    (h : ∀ i, start ≤ i → i < stop → p' i = some (p i)) :
    runEndChecked p' start stop = some (runEnd p start stop) := by
  have hnot : ∀ i, start ≤ i → i < start + (stop - start) → (p' i).map not = some (!p i) := by
    intro i hle hlt
    rw [h i hle (by omega)]
    rfl
  rw [runEndChecked, firstAmongChecked_eq hnot]
  rfl

theorem runEndChecked_text (p : Nat → Char → Bool) (h : stop ≤ text.size) :
    runEndChecked (fun i => text[i]?.map (p i)) start stop =
      some (runEnd (fun i => charAtSatisfies text (p i) i) start stop) := by
  apply runEndChecked_eq
  intro i _ hlt
  have hread : text[i]? = some text[i] := Array.getElem?_eq_getElem (by omega)
  rw [charAtSatisfies, hread]
  rfl

def closingEndChecked (text : Array Char) (opening closing : Char) :
    (depth offset count : Nat) → Option (Option Nat)
  | _, _, 0 => some none
  | depth, offset, count + 1 => do
    let c ← text[offset]?
    if c = opening then closingEndChecked text opening closing (depth + 1) (offset + 1) count
    else if c = closing then
      -- No group is open: the depth would become negative.
      if depth = 0 then none
      else if depth - 1 = 0 then return some (offset + 1)
      else closingEndChecked text opening closing (depth - 1) (offset + 1) count
    else closingEndChecked text opening closing depth (offset + 1) count

theorem closingEndChecked_eq (opening closing : Char) {depth count : Nat} (hdepth : 0 < depth)
    (h : offset + count ≤ text.size) :
    closingEndChecked text opening closing depth offset count =
      some (closingEnd? text opening closing depth offset count) := by
  induction count generalizing depth offset with
  | zero => rfl
  | succ count ih =>
    have hread : text[offset]? = some text[offset] := Array.getElem?_eq_getElem (by omega)
    have hlater : ∀ depth', 0 < depth' →
        closingEndChecked text opening closing depth' (offset + 1) count =
          some (closingEnd? text opening closing depth' (offset + 1) count) :=
      fun depth' hdepth' => ih hdepth' (by omega)
    rw [closingEndChecked, closingEnd?, hread, Option.bind_eq_bind, Option.bind_some]
    simp only [Option.some.injEq]
    by_cases hopen : text[offset] = opening
    · rw [if_pos hopen, if_pos hopen, hlater _ (Nat.succ_pos depth)]
    · by_cases hclose : text[offset] = closing
      · by_cases hone : depth ≤ 1
        · obtain rfl : depth = 1 := by omega
          rw [if_neg hopen, if_neg hopen, if_pos hclose, if_pos hclose]
          rfl
        · rw [if_neg hopen, if_neg hopen, if_pos hclose, if_pos hclose, if_neg hone,
            if_neg (by omega), if_neg (by omega), hlater _ (by omega)]
      · rw [if_neg hopen, if_neg hopen, if_neg hclose, if_neg hclose, hlater _ hdepth]

def lineStartChecked (text : Array Char) : (offset : Nat) → Option Nat
  | 0 => some 0
  | offset + 1 => do
    let c ← text[offset]?
    if c = '\n' then return offset + 1 else lineStartChecked text offset

theorem lineStartChecked_eq (h : offset ≤ text.size) :
    lineStartChecked text offset = some (lineStartBefore text offset) := by
  induction offset with
  | zero => rfl
  | succ offset ih =>
    have hread : text[offset]? = some text[offset] := Array.getElem?_eq_getElem (by omega)
    rw [lineStartChecked, hread, Option.bind_eq_bind, Option.bind_some, ih (by omega)]
    unfold lineStartBefore
    rw [runStart, hread]
    by_cases hbreak : text[offset] = '\n' <;> simp [hbreak]

/-- Keeping a value between two bounds asks for bounds in order. -/
def Outcome.shiftChecked (delta : Int) (stop : Nat) : Outcome → Option Outcome
  | .hit w => if w.start ≤ max stop w.start then some ((Outcome.hit w).shift delta stop) else none
  | other => some other

namespace Probe

theorem findM?_occursAtChecked (literals : List (List Char)) (offset : Nat)
    (h : stop ≤ text.size) :
    literals.findM? (occursAtChecked text · offset stop) =
      some (literals.find? (occursAt text · offset stop)) := by
  have hpure : (occursAtChecked text · offset stop) =
      fun literal => pure (occursAt text literal offset stop) :=
    funext fun literal => occursAtChecked_eq literal offset h
  rw [hpure]
  exact List.findM?_pure _ _

def firstOfChecked (literals : List (List Char)) (text : Array Char) (w : Window) :
    Option Outcome := do
  let literalAt (offset : Nat) := literals.findM? (occursAtChecked text · offset w.stop)
  let first ← firstAmongChecked (fun offset => (literalAt offset).map Option.isSome) w.start
    (w.stop - w.start)
  match first with
  | some offset =>
    let literal ← literalAt offset
    return .hit ⟨offset, offset + (literal.getD []).length⟩
  | none => return .miss w.stop

theorem firstOfChecked_eq (literals : List (List Char)) {w : Window} (h : w.stop ≤ text.size) :
    firstOfChecked literals text w = some (firstOf literals text w) := by
  unfold firstOfChecked firstOf
  simp only [findM?_occursAtChecked literals _ h, Option.map_some]
  rw [firstAmongChecked_eq (fun i _ _ => rfl), ← firstIn?]
  dsimp only [Option.bind_eq_bind, Option.bind_some]
  cases firstIn? (fun offset => (literals.find? (occursAt text · offset w.stop)).isSome) w.start
    w.stop <;> rfl

/-- Scans a window with reads that fail outside the text. -/
def scanChecked (text : Array Char) : Probe → Window → Option Outcome
  | literal l, w => do
    match ← firstAmongChecked (occursAtChecked text l · w.stop) w.start (w.stop - w.start) with
    | some offset => return .hit ⟨offset, offset + l.length⟩
    | none => return .miss w.stop
  | oneOf ls, w => firstOfChecked ls text w
  | oneOfAtStart ls, w => do
    match ← ls.findM? (occursAtChecked text · w.start w.stop) with
    | some l => return .hit ⟨w.start, w.start + l.length⟩
    | none => return .miss w.start
  | run kind mayBeEmpty, w => do
    let stop ← runEndChecked (fun i => text[i]?.map (kind.accepts (i == w.start))) w.start w.stop
    return if stop = w.start && !mayBeEmpty then .miss w.start else .hit ⟨w.start, stop⟩
  | spacedWord, w => do
    let start ← runEndChecked (fun i => text[i]?.map (· == ' ')) w.start w.stop
    let stop ← runEndChecked (fun i => text[i]?.map isNameChar) start w.stop
    return if stop = start then .miss start else .hit ⟨start, stop⟩
  | bracket opening closing, w =>
    if w.start < w.stop then do
      let c ← text[w.start]?
      if c = opening then
        match ← closingEndChecked text opening closing 1 (w.start + 1) (w.stop - (w.start + 1)) with
        | some stop => return .hit ⟨w.start, stop⟩
        | none => return .miss w.stop
      else return .miss w.start
    else return .miss w.start
  | backward count, w => return .anchor (w.start - count)
  | lineStart, w => do
    let offset ← lineStartChecked text (min w.start text.size)
    return .anchor offset
  | shifted inner delta, w => do
    let outcome ← inner.scanChecked text w
    outcome.shiftChecked delta w.stop
  | orElse first second, w => do
    match ← first.scanChecked text w with
    | .miss _ => second.scanChecked text w
    | found => return found

/-- In a window of the text no probe reads outside the text, and none fails. -/
theorem scanChecked_eq (p : Probe) {w : Window} (h : w.Within text.size) :
    p.scanChecked text w = some (p.scan text w) := by
  obtain ⟨hle, hstop⟩ := h
  induction p with
  | literal l =>
    rw [scanChecked, firstAmongChecked_eq fun i _ _ => occursAtChecked_eq l i hstop, ← firstIn?,
      scan, Option.bind_eq_bind, Option.bind_some]
    cases firstIn? (occursAt text l · w.stop) w.start w.stop <;> rfl
  | oneOf ls => exact firstOfChecked_eq ls hstop
  | oneOfAtStart ls =>
    rw [scanChecked, findM?_occursAtChecked ls _ hstop, scan, Option.bind_eq_bind, Option.bind_some]
    cases ls.find? (occursAt text · w.start w.stop) <;> rfl
  | run kind mayBeEmpty =>
    rw [scanChecked, runEndChecked_text _ hstop]
    rfl
  | spacedWord =>
    rw [scanChecked, runEndChecked_text _ hstop, Option.bind_eq_bind, Option.bind_some,
      runEndChecked_text _ hstop]
    rfl
  | bracket opening closing =>
    rw [scanChecked, scan]
    by_cases hlt : w.start < w.stop
    · have hread : text[w.start]? = some text[w.start] := Array.getElem?_eq_getElem (by omega)
      have hgroup : closingEndChecked text opening closing 1 (w.start + 1)
          (w.stop - (w.start + 1)) =
            some (closingEnd? text opening closing 1 (w.start + 1) (w.stop - (w.start + 1))) :=
        closingEndChecked_eq opening closing Nat.one_pos (by omega)
      rw [if_pos hlt, hread, hgroup]
      by_cases hopen : text[w.start] = opening
      · simp only [hopen, hlt, Option.bind_eq_bind, Option.bind_some, decide_true, Bool.and_self,
          if_true]
        cases closingEnd? text opening closing 1 (w.start + 1) (w.stop - (w.start + 1)) <;> rfl
      · simp [hopen]
    · simp [hlt]
  | backward count => rfl
  | lineStart =>
    rw [scanChecked, lineStartChecked_eq (Nat.min_le_right _ _)]
    rfl
  | shifted inner delta ih =>
    rw [scanChecked, ih, scan, Option.bind_eq_bind, Option.bind_some]
    cases inner.scan text w with
    | hit found => exact if_pos (Nat.le_max_right _ _)
    | anchor offset => rfl
    | miss resume => rfl
  | orElse first second ihfirst ihsecond =>
    rw [scanChecked, ihfirst, ihsecond, scan, Option.bind_eq_bind, Option.bind_some]
    cases first.scan text w <;> rfl

/-- A run that is told to go past the end of the text reads there. -/
example : scanChecked #['a'] (.run .path true) ⟨0, 2⟩ = none := by rfl

end Probe

end Scan
end Autocomplete
