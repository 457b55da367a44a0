import Autocomplete.Words.Recency
import Mathlib.Data.List.Induction

/-!
# Recently used documents over a run

A document that falls off the end of the order is forgotten for good, while closing another one
makes room again. So the order is not always filled up to the capacity with the documents in use.
But it is always a front part of them: what one event does to the order it does to the documents in
use as well, apart from the cut at the capacity.
-/

namespace Autocomplete
namespace Recency

inductive Event where
  | activated (id : Nat)
  | closed (id : Nat)
  deriving DecidableEq, Repr

def Event.id : Event → Nat
  | activated id | closed id => id

def record (r : Recency) : Event → Recency
  | .activated id => r.activate id
  | .closed id => r.close id

def after (capacity : Nat) (events : List Event) : Recency :=
  events.foldl record { capacity }

/-- The last event of a document activates it, at the given place of the run. -/
def LastActivated (events : List Event) (id place : Nat) : Prop :=
  events[place]? = some (.activated id) ∧
    ∀ later e, place < later → events[later]? = some e → e.id ≠ id

/-- All documents that were activated and not closed since, the one activated last first. -/
structure MostRecentFirst (events : List Event) (ids : List Nat) : Prop where
  nodup : ids.Nodup
  mem_iff : ∀ id, id ∈ ids ↔ ∃ place, LastActivated events id place
  sorted : ids.Pairwise fun id id' => ∀ place place',
    LastActivated events id place → LastActivated events id' place' → place' < place

def track (ids : List Nat) : Event → List Nat
  | .activated id => id :: ids.filter (· ≠ id)
  | .closed id => ids.filter (· ≠ id)

/-- The documents in use after a run, of which none is ever cut off. -/
def inUse (events : List Event) : List Nat := events.foldl track []

section

variable (capacity : Nat) (events : List Event) (e : Event)

theorem after_append : after capacity (events ++ [e]) = (after capacity events).record e := by
  simp [after]

theorem inUse_append : inUse (events ++ [e]) = track (inUse events) e := by
  simp [inUse]

theorem capacity_record (r : Recency) : (r.record e).capacity = r.capacity := by
  cases e <;> rfl

theorem capacity_after : (after capacity events).capacity = capacity := by
  induction events using List.reverseRecOn with
  | nil => rfl
  | append_singleton events e ih => rw [after_append, capacity_record, ih]

end

/-! ### The order and the documents in use -/

theorem front_record {r : Recency} {ids : List Nat} (h : r.order <+: ids) (e : Event) :
    (r.record e).order <+: track ids e := by
  cases e with
  | activated id =>
    have hfront : id :: r.order.filter (· ≠ id) <+: id :: ids.filter (· ≠ id) :=
      List.cons_prefix_cons.mpr ⟨rfl, h.filter _⟩
    have hcut := List.take_prefix r.capacity (id :: r.order.filter (· ≠ id))
    exact hcut.trans hfront
  | closed id => exact h.filter _

theorem front_after (capacity : Nat) (events : List Event) :
    (after capacity events).order <+: inUse events := by
  induction events using List.reverseRecOn with
  | nil => exact List.prefix_rfl
  | append_singleton events e ih =>
    rw [after_append, inUse_append]
    exact front_record ih e

theorem length_order_record {r : Recency} (h : r.order.length ≤ r.capacity) (e : Event) :
    (r.record e).order.length ≤ r.capacity := by
  cases e with
  | activated id => exact length_order_activate r id
  | closed id => exact Nat.le_trans (List.length_filter_le _ _) h

theorem length_order_after (capacity : Nat) (events : List Event) :
    (after capacity events).order.length ≤ capacity := by
  induction events using List.reverseRecOn with
  | nil => exact Nat.zero_le _
  | append_singleton events e ih =>
    have hstep := length_order_record (by rwa [capacity_after]) e
    rwa [capacity_after, ← after_append] at hstep

/-! ### The documents in use and the run -/

theorem getElem?_append_iff {events : List Event} {e e' : Event} {i : Nat} :
    (events ++ [e])[i]? = some e' ↔ events[i]? = some e' ∨ i = events.length ∧ e = e' := by
  rcases Nat.lt_trichotomy i events.length with hlt | rfl | hgt
  · rw [List.getElem?_append_left hlt]
    simp [Nat.ne_of_lt hlt]
  · simp
  · rw [List.getElem?_eq_none (by simpa using Nat.succ_le_of_lt hgt)]
    simp [Nat.le_of_lt hgt, Nat.ne_of_gt hgt]

theorem LastActivated.lt {events : List Event} {id place : Nat}
    (h : LastActivated events id place) : place < events.length :=
  (List.getElem?_eq_some_iff.mp h.1).1

/-- One more event is the last of its own document, and leaves those of the others. -/
theorem lastActivated_append {events : List Event} {e : Event} {id place : Nat} :
    LastActivated (events ++ [e]) id place ↔
      e = .activated id ∧ place = events.length ∨ e.id ≠ id ∧ LastActivated events id place := by
  have hlast : (events ++ [e])[events.length]? = some e := List.getElem?_concat_length
  constructor
  · rintro ⟨hplace, hlater⟩
    rcases getElem?_append_iff.mp hplace with hplace | ⟨rfl, rfl⟩
    · have hlt : place < events.length := (List.getElem?_eq_some_iff.mp hplace).1
      refine .inr ⟨hlater _ e hlt hlast, hplace, ?_⟩
      intro later e' hle he'
      exact hlater later e' hle (getElem?_append_iff.mpr (.inl he'))
    · exact .inl ⟨rfl, rfl⟩
  · rintro (⟨rfl, rfl⟩ | ⟨hne, h⟩)
    · refine ⟨hlast, ?_⟩
      intro later e' hlt he'
      have hin := (List.getElem?_eq_some_iff.mp he').1
      rw [List.length_append, List.length_singleton] at hin
      omega
    · refine ⟨getElem?_append_iff.mpr (.inl h.1), ?_⟩
      intro later e' hlt he'
      rcases getElem?_append_iff.mp he' with he' | ⟨-, rfl⟩
      · exact h.2 later e' hlt he'
      · exact hne

theorem mem_track {ids : List Nat} {e : Event} {id : Nat} :
    id ∈ track ids e ↔ e = .activated id ∨ e.id ≠ id ∧ id ∈ ids := by
  cases e with
  | activated id' =>
    by_cases h : id' = id
    · simp [track, h]
    · simp [track, Event.id, h, Ne.symm h]
  | closed id' => simp [track, Event.id, and_comm, ne_comm]

/-- What stays in use keeps its place in the run, so one event keeps the order of the others. -/
theorem sorted_filter {events : List Event} {e : Event} {ids : List Nat}
    (h : MostRecentFirst events ids) :
    (ids.filter (· ≠ e.id)).Pairwise fun id id' => ∀ place place',
      LastActivated (events ++ [e]) id place → LastActivated (events ++ [e]) id' place' →
        place' < place := by
  have hkept := h.sorted.sublist (List.filter_sublist (p := (· ≠ e.id)))
  apply hkept.imp_of_mem
  intro id id' hid hid' hbefore place place' hplace hplace'
  have hne : e.id ≠ id := fun heq => by simp [heq] at hid
  have hne' : e.id ≠ id' := fun heq => by simp [heq] at hid'
  rcases lastActivated_append.mp hplace with ⟨rfl, -⟩ | ⟨-, hplace⟩
  · exact absurd rfl hne
  rcases lastActivated_append.mp hplace' with ⟨rfl, -⟩ | ⟨-, hplace'⟩
  · exact absurd rfl hne'
  exact hbefore place place' hplace hplace'

theorem MostRecentFirst.track {events : List Event} {ids : List Nat}
    (h : MostRecentFirst events ids) (e : Event) :
    MostRecentFirst (events ++ [e]) (track ids e) where
  nodup := by
    cases e with
    | activated id => exact List.nodup_cons.mpr ⟨by simp, h.nodup.filter _⟩
    | closed id => exact h.nodup.filter _
  mem_iff id := by
    rw [mem_track, h.mem_iff]
    simp only [lastActivated_append, exists_or, exists_and_left, exists_eq, and_true]
  sorted := by
    cases e with
    | activated id =>
      refine List.pairwise_cons.mpr ⟨?_, sorted_filter h⟩
      intro id' hid' place place' hplace hplace'
      have hne : id ≠ id' := fun heq => by simp [heq] at hid'
      rcases lastActivated_append.mp hplace with ⟨-, rfl⟩ | ⟨hself, -⟩
      · rcases lastActivated_append.mp hplace' with ⟨heq, -⟩ | ⟨-, hplace'⟩
        · exact absurd (Event.activated.inj heq) hne
        · exact hplace'.lt
      · exact absurd rfl hself
    | closed id => exact sorted_filter h

theorem mostRecentFirst_inUse (events : List Event) :
    MostRecentFirst events (inUse events) := by
  induction events using List.reverseRecOn with
  | nil => exact ⟨.nil, by simp [inUse, LastActivated], .nil⟩
  | append_singleton events e ih =>
    rw [inUse_append]
    exact ih.track e

/-- After any run the order holds no document twice, none beyond the capacity, and is a front part
of the documents that were activated and not closed since, the one activated last first. -/
theorem order_holds_the_most_recent (capacity : Nat) (events : List Event) :
    (after capacity events).order.Nodup ∧
    (after capacity events).order.length ≤ capacity ∧
    MostRecentFirst events (inUse events) ∧
    (after capacity events).order <+: inUse events ∧
    ∀ id, 0 < capacity → (after capacity (events ++ [.activated id])).order.head? = some id := by
  have hmost := mostRecentFirst_inUse events
  have hfront := front_after capacity events
  refine ⟨hfront.sublist.nodup hmost.nodup, length_order_after capacity events, hmost, hfront, ?_⟩
  intro id hpos
  obtain ⟨rest, rfl⟩ := Nat.exists_eq_add_of_lt hpos
  rw [after_append, record, activate, capacity_after, Nat.zero_add, List.take_succ_cons,
    List.head?_cons]

/-- Closing a document does not bring back one that was cut off. -/
example :
    let events : List Event := [.activated 1, .activated 2, .activated 3, .closed 3]
    (after 2 events).order = [2] ∧ inUse events = [2, 1] := by
  decide

end Recency
end Autocomplete
