import Autocomplete.Proofs.Words.Repair

/-!
# Lengths of the words offered

Words that are too short or too long are dropped before repair. Repair replaces a word by words with
one more character, so what is offered is never too short, and too long by one character at most.
It is too long exactly where a word of the greatest length is cut off.
-/

namespace Autocomplete
namespace Words

open Scan Text

/-! ### What repair makes of a word -/

section

variable {text : List Char} {spent : Nat → Bool} {s : String}

theorem eq_or_cutOff_of_mem_repairOne {word : List Char} (hne : word ≠ [])
    (h : s ∈ repairOne text word) :
    s = String.ofList word ∨ CutOff word text ∧ ∃ c, s = String.ofList (word ++ [c]) := by
  unfold repairOne at h
  split at h
  next => exact .inl (List.mem_singleton.mp h)
  next hwhole =>
    rw [occursWhole_iff hne] at hwhole
    split at h
    next => exact .inl (List.mem_singleton.mp h)
    next =>
      obtain ⟨run, hrun, rfl⟩ := List.mem_map.mp h
      obtain ⟨c, rfl, hwide, hlonger⟩ := whole_of_mem_extensions hne hrun
      exact .inr ⟨⟨hwhole, c, hwide, hlonger⟩, c, rfl⟩

theorem exists_longer_of_cutOff {word : List Char} (hne : word ≠ []) (h : CutOff word text) :
    ∃ c, String.ofList (word ++ [c]) ∈ repairOne text word := by
  obtain ⟨hwhole, c, hwide, hlonger⟩ := h
  obtain ⟨run, hrun⟩ := List.exists_mem_of_ne_nil _ (extensions_ne_nil_of_whole hne hwide hlonger)
  obtain ⟨c', rfl, -, -⟩ := whole_of_mem_extensions hne hrun
  refine ⟨c', ?_⟩
  rw [repairOne, if_neg (by rwa [occursWhole_iff hne])]
  split
  next hnone => simp [hnone] at hrun
  next => exact List.mem_map_of_mem hrun

/-- Repair keeps a word or replaces it, the latter only before the budget is spent. -/
theorem mem_or_repaired_of_mem_repairFrom {start : Nat} {words : List String}
    (h : s ∈ repairFrom text spent start words) :
    s ∈ words ∨ ∃ index word, words[index]? = some word ∧
      (∀ j < index, spent (start + j) = false) ∧ s ∈ repairOne text word.toList := by
  induction words generalizing start with
  | nil => simp [repairFrom] at h
  | cons word rest ih =>
    rw [repairFrom, List.mem_append] at h
    rcases h with h | h
    · exact .inr ⟨0, word, rfl, by simp, h⟩
    · split at h
      next => exact .inl (List.mem_cons_of_mem _ h)
      next hspent =>
        rcases ih h with h | ⟨index, other, hother, hreached, h⟩
        · exact .inl (List.mem_cons_of_mem _ h)
        · refine .inr ⟨index + 1, other, hother, ?_, h⟩
          intro j hj
          cases j with
          | zero => simpa using hspent
          | succ j =>
            have := hreached j (by omega)
            rwa [Nat.add_right_comm] at this

theorem mem_repairFrom_of_reached {start index : Nat} {words : List String} {word : String}
    (hword : words[index]? = some word) (hreached : ∀ j < index, spent (start + j) = false)
    (h : s ∈ repairOne text word.toList) : s ∈ repairFrom text spent start words := by
  induction words generalizing start index with
  | nil => simp at hword
  | cons first rest ih =>
    rw [repairFrom, List.mem_append]
    cases index with
    | zero =>
      obtain rfl : first = word := by simpa using hword
      exact .inl h
    | succ index =>
      rw [if_neg (by simpa using hreached 0 (by omega))]
      refine .inr (ih (by simpa using hword) ?_)
      intro j hj
      have := hreached (j + 1) (by omega)
      rwa [Nat.add_right_comm]

end

theorem ne_nil_of_mem_extract {text typed word : String} {cursor : Option Nat}
    (h : word ∈ extract text typed cursor) : word.toList ≠ [] := by
  obtain ⟨-, w, ⟨before, after, -, hrun, -⟩, -⟩ := mem_extract_iff.mp h
  exact hrun.nonempty

theorem accepted_of_mem_limit {settings : Settings} {words : List String} {word : String}
    (h : word ∈ limit settings words) : settings.acceptsWordSize word.length = true :=
  (List.mem_filter.mp h).2

def WithinLimits (settings : Settings) (items : List Item) : Prop :=
  ∀ i ∈ items, ∃ word, i.label = word ++ "\t." ∧ settings.acceptsWordSize word.length = true

/-! ### The words of a document -/

section

variable {settings : Settings} {text typed s : String} {cursor : Option Nat} {spent : Nat → Bool}

/-- The word at `index` is repaired, is as long as words may be, and is cut off. -/
def Outgrows (settings : Settings) (text typed : String) (cursor : Option Nat)
    (spent : Nat → Bool) (index : Nat) (word : String) : Prop :=
  (limit settings (extract text typed cursor))[index]? = some word ∧
    (∀ j < index, spent j = false) ∧ word.length = settings.maxWordSize ∧
    CutOff word.toList text.toList

/-- A repaired word has a length that is accepted, or one more where a longest word is cut off. -/
theorem length_of_mem_repair
    (h : s ∈ repair text spent (limit settings (extract text typed cursor))) :
    settings.acceptsWordSize s.length = true ∨
      s.length = settings.maxWordSize + 1 ∧ settings.minWordSize ≤ s.length ∧
        ∃ index word, Outgrows settings text typed cursor spent index word := by
  rcases mem_or_repaired_of_mem_repairFrom h with h | ⟨index, word, hword, hreached, h⟩
  · exact .inl (accepted_of_mem_limit h)
  have hmem := List.mem_of_getElem? hword
  have haccepted := accepted_of_mem_limit hmem
  rcases eq_or_cutOff_of_mem_repairOne (ne_nil_of_mem_extract (mem_of_mem_limit hmem)) h with
    rfl | ⟨hcut, c, rfl⟩
  · rw [String.ofList_toList]
    exact .inl haccepted
  · have hlength : (String.ofList (word.toList ++ [c])).length = word.length + 1 := by simp
    rw [Settings.acceptsWordSize_iff] at haccepted
    rw [hlength, Settings.acceptsWordSize_iff]
    by_cases hlongest : word.length = settings.maxWordSize
    · refine .inr ⟨by omega, by omega, index, word, hword, ?_, hlongest, hcut⟩
      simpa using hreached
    · exact .inl (by omega)

theorem exists_too_long_of_outgrows {index : Nat} {word : String}
    (h : Outgrows settings text typed cursor spent index word) :
    ∃ s ∈ repair text spent (limit settings (extract text typed cursor)),
      s.length = settings.maxWordSize + 1 := by
  obtain ⟨hword, hreached, hlongest, hcut⟩ := h
  have hmem := mem_of_mem_limit (List.mem_of_getElem? hword)
  obtain ⟨c, hlonger⟩ := exists_longer_of_cutOff (ne_nil_of_mem_extract hmem) hcut
  refine ⟨_, mem_repairFrom_of_reached hword (by simpa using hreached) hlonger, ?_⟩
  simp [hlongest]

end

section

variable {spent : Document → Nat → Bool} {settings : Settings} {active : Document}
  {others : List Document} {recency : Recency} {typed : String} {cursor : Option Nat}

theorem mem_completeSpending {i : Item} :
    i ∈ completeSpending spent settings active others recency typed cursor ↔
      ∃ d ∈ consulted active others recency settings.maxDocuments, ∃ s ∈ repair d.text (spent d)
        (limit settings (extract d.text typed (if d.id = active.id then cursor else none))),
          item s = i := by
  simp only [completeSpending, ofDocument, List.mem_map, mem_distinct, List.mem_flatMap]
  constructor
  · rintro ⟨s, ⟨d, hd, hs⟩, rfl⟩
    exact ⟨d, hd, s, hs, rfl⟩
  · rintro ⟨d, hd, s, hs, rfl⟩
    exact ⟨s, ⟨d, hd, hs⟩, rfl⟩

end

/-- The words offered are never too short, and too long by at most one character. None is too long
exactly if no consulted document has a word of the greatest length that is cut off and that repair
comes to before the budget is spent. This holds whenever the budget of a document is spent. -/
theorem offered_words_exceed_limits_by_repair_alone (settings : Settings) (active : Document)
    (others : List Document) (recency : Recency) (typed : String) (cursor : Option Nat)
    (spent : Document → Nat → Bool) :
    (∀ i ∈ completeSpending spent settings active others recency typed cursor,
      ∃ word, i.label = word ++ "\t." ∧ settings.minWordSize ≤ word.length ∧
        word.length ≤ settings.maxWordSize + 1) ∧
    (WithinLimits settings (completeSpending spent settings active others recency typed cursor) ↔
      ∀ d ∈ consulted active others recency settings.maxDocuments, ∀ index word,
        ¬Outgrows settings d.text typed (if d.id = active.id then cursor else none) (spent d)
          index word) ∧
    complete settings active others recency typed cursor =
      completeSpending (fun _ => settings.repairSpent) settings active others recency typed
        cursor := by
  refine ⟨?_, ?_, complete_eq_completeSpending _ _ _ _ _ _⟩
  · intro i hi
    obtain ⟨d, -, s, hs, rfl⟩ := mem_completeSpending.mp hi
    refine ⟨s, rfl, ?_⟩
    rcases length_of_mem_repair hs with haccepted | ⟨hlong, hmin, -⟩
    · rw [Settings.acceptsWordSize_iff] at haccepted
      omega
    · omega
  · constructor
    · intro hwithin d hd index word houtgrows
      obtain ⟨s, hs, hlong⟩ := exists_too_long_of_outgrows houtgrows
      obtain ⟨word', hlabel, haccepted⟩ :=
        hwithin _ (mem_completeSpending.mpr ⟨d, hd, s, hs, rfl⟩)
      obtain rfl : s = word' := (String.append_left_inj "\t.").mp hlabel
      rw [Settings.acceptsWordSize_iff] at haccepted
      omega
    · intro hnone i hi
      obtain ⟨d, hd, s, hs, rfl⟩ := mem_completeSpending.mp hi
      refine ⟨s, rfl, ?_⟩
      rcases length_of_mem_repair hs with haccepted | ⟨-, -, index, word, houtgrows⟩
      · exact haccepted
      · exact absurd houtgrows (hnone d hd index word)

/-- A document whose only word ends in an accent of its own. -/
def accented : Document := .ofString 1 "cafe\u0301"

def fourLetters : Settings where
  maxWordSize := 4

theorem repair_offers_a_word_of_five_characters :
    complete fourLetters accented [] { capacity := 40 } "" none = [item "cafe\u0301"] ∧
      ¬WithinLimits fourLetters (complete fourLetters accented [] { capacity := 40 } "" none) := by
  have hcandidates : candidates accented.text.toList.toArray "" none = [⟨0, "cafe"⟩] := by
    decide +kernel
  have hextract : extract accented.text "" none = ["cafe"] := by
    rw [extract, hcandidates, List.mergeSort_singleton]
    rfl
  have hrepair : repair accented.text fourLetters.repairSpent (limit fourLetters ["cafe"]) =
      ["cafe\u0301"] := by
    decide +kernel
  have hconsulted : consulted accented [] { capacity := 40 } fourLetters.maxDocuments =
      [accented] := rfl
  have hcomplete : complete fourLetters accented [] { capacity := 40 } "" none =
      [item "cafe\u0301"] := by
    rw [complete, completeSpending, hconsulted, List.flatMap_singleton, ite_self, ofDocument,
      hextract, hrepair]
    rfl
  refine ⟨hcomplete, ?_⟩
  intro hwithin
  rw [hcomplete] at hwithin
  obtain ⟨word, hlabel, haccepted⟩ := hwithin _ (List.mem_singleton_self _)
  obtain rfl : "cafe\u0301" = word := (String.append_left_inj "\t.").mp hlabel
  revert haccepted
  decide +kernel

end Words
end Autocomplete
