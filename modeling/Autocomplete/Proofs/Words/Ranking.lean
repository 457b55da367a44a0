import Autocomplete.Proofs.Words.Windows

/-!
# The words extracted from a text and their order

Each word that starts with what is typed is extracted once, whatever the number of places where it
stands. Sorting by distance keeps the order of the text among equally distant places, so the first
place of a word after sorting is the nearest one, and the earliest of those. That place is what the
word is ranked by.
-/

namespace Autocomplete

section

variable {α : Type} (key : α → Nat) (xs : List α)

theorem key_le_trans (a b c : α) (hab : decide (key a ≤ key b) = true)
    (hbc : decide (key b ≤ key c) = true) : decide (key a ≤ key c) = true :=
  decide_eq_true (Nat.le_trans (of_decide_eq_true hab) (of_decide_eq_true hbc))

theorem key_le_total (a b : α) :
    (decide (key a ≤ key b) || decide (key b ≤ key a)) = true := by
  simpa using Nat.le_total (key a) (key b)

/-- Sorting keeps the order of the items of one key. -/
theorem filter_mergeSort (k : Nat) :
    (xs.mergeSort fun a b => key a ≤ key b).filter (key · = k) = xs.filter (key · = k) := by
  have hequal : (xs.filter (key · = k)).Pairwise fun a b => (key a ≤ key b : Bool) := by
    rw [List.pairwise_filter]
    exact List.pairwise_of_forall fun a b ha hb => by simp_all
  have hsub : (xs.filter (key · = k)).Sublist (xs.mergeSort fun a b => key a ≤ key b) :=
    List.sublist_mergeSort (key_le_trans key) (key_le_total key) hequal List.filter_sublist
  have hfiltered := hsub.filter (key · = k)
  have hperm := (List.mergeSort_perm xs fun a b => key a ≤ key b).filter (key · = k)
  simp only [List.filter_filter, Bool.and_self] at hfiltered
  exact (hfiltered.eq_of_length hperm.length_eq.symm).symm

/-- Sorting by a key leaves the given order to the items of one key. -/
theorem pairwise_mergeSort_of_pairwise {before : α → α → Prop} (h : xs.Pairwise before) :
    (xs.mergeSort fun a b => key a ≤ key b).Pairwise fun a b =>
      key a < key b ∨ key a = key b ∧ before a b := by
  have hsorted : (xs.mergeSort fun a b => key a ≤ key b).Pairwise fun a b =>
      decide (key a ≤ key b) = true :=
    List.pairwise_mergeSort (key_le_trans key) (key_le_total key) xs
  rw [List.pairwise_iff_forall_sublist] at h hsorted ⊢
  intro a b hpair
  have hle : key a ≤ key b := of_decide_eq_true (hsorted hpair)
  rcases Nat.lt_or_eq_of_le hle with hlt | heq
  · exact .inl hlt
  · have hkept := hpair.filter (key · = key a)
    rw [filter_mergeSort, List.filter_eq_self.mpr (by simp [heq])] at hkept
    exact .inr ⟨heq, h (hkept.trans List.filter_sublist)⟩

end

namespace Words

open Scan Text

/-- The window lies before or after the cursor without touching it. -/
def Apart (cursor : Option Nat) (w : Window) : Prop :=
  ∀ offset ∈ cursor, offset < w.start ∨ w.stop < offset

/-- The number of characters between a window and the cursor, none without a cursor. -/
def gap (cursor : Option Nat) (w : Window) : Nat :=
  cursor.elim 0 fun offset => max (offset - w.stop) (w.start - offset)

/-- The window is nearer to the cursor than another, or as near and earlier in the text. -/
def Before (cursor : Option Nat) (v w : Window) : Prop :=
  gap cursor v < gap cursor w ∨ gap cursor v = gap cursor w ∧ v.start < w.start

/-- The place of a word that is nearest to the cursor, the earliest of those at the same
distance. -/
structure Nearest (text : String) (cursor : Option Nat) (word : String) (w : Window) : Prop where
  stands : StandsAt text word w
  apart : Apart cursor w
  first : ∀ v, StandsAt text word v → Apart cursor v → v = w ∨ Before cursor w v

theorem touches_eq_false_iff {cursor : Option Nat} {w : Window} :
    touches cursor w = false ↔ Apart cursor w := by
  cases cursor with
  | none => simp [touches, Apart]
  | some offset =>
    simp only [touches, Apart, Option.any_some, Option.mem_some_iff, forall_eq',
      Bool.and_eq_false_iff, decide_eq_false_iff_not, Nat.not_le]

theorem distance_eq_gap {cursor : Option Nat} {w : Window} (h : w.start ≤ w.stop) :
    distance cursor w = gap cursor w := by
  cases cursor with
  | none => rfl
  | some offset =>
    simp only [distance, gap, Option.elim_some]
    split <;> omega

theorem Nearest.unique {text word : String} {cursor : Option Nat} {v w : Window}
    (hv : Nearest text cursor word v) (hw : Nearest text cursor word w) : v = w := by
  rcases hw.first v hv.stands hv.apart with heq | hbefore
  · exact heq
  · rcases hv.first w hw.stands hw.apart with heq | hafter
    · exact heq.symm
    · unfold Before at hbefore hafter
      omega

/-! ### The places that words are extracted from -/

section

variable (text typed : String) (cursor : Option Nat)

/-- The places of the words that start with what is typed and do not touch the cursor, from left to
right. -/
def places : List Window :=
  ((windows text.toList.toArray).filter (!touches cursor ·)).filter
    fun w => startsWithIgnoringCase typed (wordIn text w)

/-- The same places, the nearest first. -/
def rankedPlaces : List Window :=
  (places text typed cursor).mergeSort fun v w => distance cursor v ≤ distance cursor w

/-- The words are read at their first places after sorting. -/
theorem extract_eq :
    extract text typed cursor =
      (distinctBy (wordIn text) (rankedPlaces text typed cursor)).map (wordIn text) := by
  let candidate (w : Window) : Candidate := ⟨distance cursor w, wordIn text w⟩
  have hcandidates : candidates text.toList.toArray typed cursor =
      (places text typed cursor).map candidate := by
    rw [candidates, List.filter_map]
    rfl
  have hsorted : ((places text typed cursor).map candidate).mergeSort
      (fun a b => a.distance ≤ b.distance) = (rankedPlaces text typed cursor).map candidate :=
    Eq.symm (List.map_mergeSort (f := candidate) fun _ _ _ _ => rfl)
  rw [extract, hcandidates, hsorted, List.map_map, ← distinct_map]
  rfl

theorem nodup_extract : (extract text typed cursor).Nodup := by
  unfold extract
  exact nodup_distinct _

variable {text typed cursor} {w : Window}

theorem mem_rankedPlaces_iff :
    w ∈ rankedPlaces text typed cursor ↔
      StandsAt text (wordIn text w) w ∧ Apart cursor w ∧
        startsWithIgnoringCase typed (wordIn text w) = true := by
  rw [rankedPlaces, List.mem_mergeSort, places, List.mem_filter, List.mem_filter, standsAt_iff,
    ← touches_eq_false_iff, Bool.not_eq_true', and_assoc, eq_self, and_true]

theorem pairwise_rankedPlaces : (rankedPlaces text typed cursor).Pairwise (Before cursor) := by
  have hstart : (places text typed cursor).Pairwise fun v w => v.start < w.start :=
    (pairwise_windows _).sublist (List.filter_sublist.trans List.filter_sublist)
  apply (pairwise_mergeSort_of_pairwise (distance cursor) _ hstart).imp_of_mem
  intro v w hv hw hbefore
  rw [List.mem_mergeSort, places, List.mem_filter, List.mem_filter] at hv hw
  have hgap : distance cursor v = gap cursor v := distance_eq_gap (isRun_of_mem_windows hv.1.1).1
  have hgap' : distance cursor w = gap cursor w := distance_eq_gap (isRun_of_mem_windows hw.1.1).1
  rwa [hgap, hgap'] at hbefore

/-- Every word is extracted from its nearest place. -/
theorem nearest_of_mem_distinctBy
    (h : w ∈ distinctBy (wordIn text) (rankedPlaces text typed cursor)) :
    Nearest text cursor (wordIn text w) w := by
  have hplace := (distinctBy_sublist _ _).subset h
  obtain ⟨hstands, hapart, hstarts⟩ := mem_rankedPlaces_iff.mp hplace
  refine ⟨hstands, hapart, ?_⟩
  intro v hv hvapart
  have hword : wordIn text v = wordIn text w := wordIn_of_standsAt hv
  have hvplace : v ∈ rankedPlaces text typed cursor :=
    mem_rankedPlaces_iff.mpr ⟨hword ▸ hv, hvapart, hword ▸ hstarts⟩
  exact eq_or_before_of_mem_distinctBy pairwise_rankedPlaces h hvplace hword

theorem mem_extract_iff {word : String} :
    word ∈ extract text typed cursor ↔
      startsWithIgnoringCase typed word = true ∧ ∃ w, StandsAt text word w ∧ Apart cursor w := by
  rw [extract_eq, mem_map_distinctBy, List.mem_map]
  constructor
  · rintro ⟨w, hw, rfl⟩
    obtain ⟨hstands, hapart, hstarts⟩ := mem_rankedPlaces_iff.mp hw
    exact ⟨hstarts, w, hstands, hapart⟩
  · rintro ⟨hstarts, w, hstands, hapart⟩
    obtain rfl := wordIn_of_standsAt hstands
    exact ⟨w, mem_rankedPlaces_iff.mpr ⟨hstands, hapart, hstarts⟩, rfl⟩

end

/-- What is extracted from a text is each of its words once, if the word starts with what is typed
and stands somewhere apart from the cursor, and nothing else. The words are in the order of their
nearest places. -/
theorem extracted_words_are_ranked (text typed : String) (cursor : Option Nat) :
    (extract text typed cursor).Nodup ∧
    (∀ word, word ∈ extract text typed cursor ↔
      (lowercase typed).toList <+: (lowercase word).toList ∧
        ∃ w, StandsAt text word w ∧ Apart cursor w) ∧
    (∀ word ∈ extract text typed cursor, ∃ w, Nearest text cursor word w) ∧
    (extract text typed cursor).Pairwise fun word word' => ∀ w w',
      Nearest text cursor word w → Nearest text cursor word' w' → Before cursor w w' := by
  refine ⟨nodup_extract _ _ _, ?_, ?_, ?_⟩
  · intro word
    rw [mem_extract_iff, startsWithIgnoringCase, List.isPrefixOf_iff_prefix]
  · intro word hword
    rw [extract_eq, List.mem_map] at hword
    obtain ⟨w, hw, rfl⟩ := hword
    exact ⟨w, nearest_of_mem_distinctBy hw⟩
  · rw [extract_eq, List.pairwise_map]
    apply (pairwise_rankedPlaces.sublist (distinctBy_sublist _ _)).imp_of_mem
    intro v v' hv hv' hbefore w w' hw hw'
    obtain rfl := (nearest_of_mem_distinctBy hv).unique hw
    obtain rfl := (nearest_of_mem_distinctBy hv').unique hw'
    exact hbefore

end Words

end Autocomplete
