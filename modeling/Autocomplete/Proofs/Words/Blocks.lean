import Autocomplete.Proofs.Text.LongestRuns
import Autocomplete.Settings
import Autocomplete.Words.Repair

/-!
# What repair makes of each word

Repair goes from word to word, and what it makes of one depends on the text alone. So the repaired
words are one block after the other, up to the word after which the budget is spent. A block is
never empty, and holds the word itself or longest runs of the text that have one character more.
-/

namespace Autocomplete
namespace Words

open Text

/-- What stands for a word after its repair: the word if it is a longest run of the text, else the
longest runs that are the word with one more character, and the word again if there is none. -/
def block (text word : String) : List String :=
  if word.toList ∈ runs isWideWordChar text.toList then [word]
  else
    match (runs isWideWordChar text.toList).filter (OneLonger word.toList ·) with
    | [] => [word]
    | longer => longer.map String.ofList

/-- A word as word boundaries see it. -/
def IsWord (word : String) : Prop := word ≠ "" ∧ ∀ c ∈ word.toList, isWideWordChar c = true

instance (word : String) : Decidable (IsWord word) :=
  -- The characters of the word are tried, not all characters.
  @instDecidableAnd _ _ _ (List.decidableBAll _ _)

section

variable {text word s : String}

theorem IsWord.toList_ne_nil (h : IsWord word) : word.toList ≠ [] := by
  simpa using h.1

theorem repairOne_eq_block (h : IsWord word) :
    repairOne text.toList word.toList = block text word := by
  have hne := h.toList_ne_nil
  have hwhole : occursWhole word.toList none text.toList = true ↔
      word.toList ∈ runs isWideWordChar text.toList :=
    (occursWhole_iff hne).trans (whole_iff_mem_runs hne h.2)
  have hfound : extensions word.toList 0 none text.toList =
      (runs isWideWordChar text.toList).filter (OneLonger word.toList ·) :=
    extensions_eq_filter_runs hne h.2 rfl
  unfold repairOne block
  rw [hfound, String.ofList_toList]
  exact if_congr hwhole rfl rfl

theorem block_ne_nil (text word : String) : block text word ≠ [] := by
  unfold block
  split
  · simp
  · split <;> simp_all

theorem eq_or_longer_of_mem_block (h : s ∈ block text word) :
    s = word ∨ OneLonger word.toList s.toList ∧ s.toList ∈ runs isWideWordChar text.toList := by
  unfold block at h
  split at h
  · exact .inl (List.mem_singleton.mp h)
  · split at h
    · exact .inl (List.mem_singleton.mp h)
    · obtain ⟨run, hrun, rfl⟩ := List.mem_map.mp h
      obtain ⟨hmem, hlonger⟩ := List.mem_filter.mp hrun
      rw [String.toList_ofList]
      exact .inr ⟨of_decide_eq_true hlonger, hmem⟩

end

section

variable {text : String} {words : List String} {spent : Nat → Bool}

/-- As long as the budget lasts, each word is repaired. -/
theorem repairFrom_eq {start count : Nat} (hspent : ∀ j < count, spent (start + j) = false) :
    repairFrom text.toList spent start words =
      (words.take count).flatMap (fun word => repairOne text.toList word.toList) ++
        repairFrom text.toList spent (start + count) (words.drop count) := by
  induction count generalizing start words with
  | zero => simp
  | succ count ih =>
    cases words with
    | nil => simp [repairFrom]
    | cons word rest =>
      have hfirst : spent start = false := hspent 0 (Nat.succ_pos count)
      have hlater : ∀ j < count, spent (start + 1 + j) = false := by
        intro j hj
        have := hspent (j + 1) (Nat.succ_lt_succ hj)
        rwa [Nat.add_comm j 1, ← Nat.add_assoc] at this
      rw [repairFrom, hfirst, if_neg Bool.false_ne_true, ih hlater, List.take_succ_cons,
        List.drop_succ_cons, List.flatMap_cons, List.append_assoc, Nat.add_assoc,
        Nat.add_comm 1 count]

theorem repair_eq_flatMap (hspent : ∀ j < words.length, spent j = false) :
    repair text spent words = words.flatMap fun word => repairOne text.toList word.toList := by
  have hall : repairFrom text.toList spent 0 words =
      (words.take words.length).flatMap (fun word => repairOne text.toList word.toList) ++
        repairFrom text.toList spent (0 + words.length) (words.drop words.length) :=
    repairFrom_eq (by simpa using hspent)
  rw [repair, hall, List.take_length, List.drop_length, repairFrom, List.append_nil]

theorem repair_of_lasting (hwords : ∀ word ∈ words, IsWord word)
    (hspent : ∀ j < words.length, spent j = false) :
    repair text spent words = words.flatMap (block text) := by
  rw [repair_eq_flatMap hspent]
  exact List.flatMap_congr fun word hword => repairOne_eq_block (hwords word hword)

/-- The word after which the budget is spent is the last one to be repaired. -/
theorem repair_of_spent (hwords : ∀ word ∈ words, IsWord word) {last : Nat}
    (hlast : spent last = true) (hspent : ∀ j < last, spent j = false) :
    repair text spent words =
      (words.take (last + 1)).flatMap (block text) ++ words.drop (last + 1) := by
  have hfront : repairFrom text.toList spent 0 words =
      (words.take last).flatMap (fun word => repairOne text.toList word.toList) ++
        repairFrom text.toList spent (0 + last) (words.drop last) :=
    repairFrom_eq (by simpa using hspent)
  have hblocks : (words.take last).flatMap (fun word => repairOne text.toList word.toList) =
      (words.take last).flatMap (block text) :=
    List.flatMap_congr fun word hword =>
      repairOne_eq_block (hwords word (List.mem_of_mem_take hword))
  have hread : words[last]? = (words.drop last).head? := List.head?_drop.symm
  have hrest : words.drop (last + 1) = (words.drop last).tail := List.tail_drop.symm
  rw [repair, hfront, hblocks, List.take_add_one, hread, hrest, Nat.zero_add]
  cases hdrop : words.drop last with
  | nil => simp [repairFrom]
  | cons word rest =>
    have hword : IsWord word := hwords word (List.mem_of_mem_drop (hdrop ▸ List.mem_cons_self))
    rw [repairFrom, if_pos hlast, repairOne_eq_block hword]
    simp

end

/-- While the budget lasts, the words of a list are replaced by their blocks. Where it is spent
after one of them, as a budget of zero is after the first one, the remaining words are kept as they
are. And no block is empty or holds anything but its word and longest runs with one character
more. -/
theorem repair_replaces_words_by_blocks (text : String) (words : List String)
    (hwords : ∀ word ∈ words, IsWord word) :
    (∀ spent : Nat → Bool, (∀ j < words.length, spent j = false) →
      repair text spent words = words.flatMap (block text)) ∧
    (∀ (spent : Nat → Bool) (last : Nat), spent last = true → (∀ j < last, spent j = false) →
      repair text spent words =
        (words.take (last + 1)).flatMap (block text) ++ words.drop (last + 1)) ∧
    (∀ settings : Settings, settings.repairBudget = 0 →
      repair text settings.repairSpent words =
        (words.take 1).flatMap (block text) ++ words.drop 1) ∧
    ∀ word ∈ words, block text word ≠ [] ∧ ∀ s ∈ block text word,
      s = word ∨ OneLonger word.toList s.toList ∧ s.toList ∈ runs isWideWordChar text.toList := by
  refine ⟨fun spent => repair_of_lasting hwords, fun spent last => repair_of_spent hwords, ?_, ?_⟩
  · intro settings hzero
    exact repair_of_spent hwords (Settings.repairSpent_iff.mpr hzero)
      fun j hj => absurd hj (Nat.not_lt_zero j)
  · intro word _
    exact ⟨block_ne_nil text word, fun s => eq_or_longer_of_mem_block⟩

/-- A text with three runs that are one character longer than `configure`, and with longer ones. -/
def configureText : String := "configured, configures; reconfigure configured"

theorem repair_replaces_words_by_blocks_of_configure :
    (∀ word ∈ ["configure", "missing", "reconfigur"], IsWord word) ∧
      repair configureText (fun _ => false) ["configure", "missing", "reconfigur"] =
        ["configured", "configures", "configured", "missing", "reconfigure"] ∧
      repair configureText (fun _ => true) ["configure", "missing", "reconfigur"] =
        ["configured", "configures", "configured", "missing", "reconfigur"] := by
  have hwords : ∀ word ∈ ["configure", "missing", "reconfigur"], IsWord word := by decide +kernel
  obtain ⟨hlasting, hspent, -, -⟩ :=
    repair_replaces_words_by_blocks configureText ["configure", "missing", "reconfigur"] hwords
  refine ⟨hwords, ?_, ?_⟩
  · rw [hlasting _ fun _ _ => rfl]
    decide +kernel
  · rw [hspent _ 0 rfl fun j hj => absurd hj (Nat.not_lt_zero j)]
    decide +kernel

end Words
end Autocomplete
