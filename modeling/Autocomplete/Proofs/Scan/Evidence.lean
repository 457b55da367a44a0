import Autocomplete.Proofs.Scan.Bracket
import Autocomplete.Proofs.Scan.Slice

/-!
# What the text of a match has in it

Every step of a match has succeeded somewhere in the text. A literal therefore fits into the window
in which it was found, a group needs its opening bracket, and a step without a transform has
captured a text. Where the text lacks any of these, there is no match.
-/

namespace Autocomplete
namespace Scan

variable {text : Array Char} {pos stop : Nat} {found next : Window} {made : List Capture}

theorem length_le_of_hit {literal : List Char}
    (hscan : (Probe.literal literal).scan text ⟨pos, stop⟩ = .hit found) :
    pos + literal.length ≤ stop := by
  rw [Probe.scan] at hscan
  split at hscan
  · rename_i offset hfirst
    obtain ⟨hle, -, hoccurs, -⟩ := firstIn?_eq_some hfirst
    exact Nat.le_trans (Nat.add_le_add_right hle _) (add_length_le_of_occursAt hoccurs)
  · exact Outcome.noConfusion hscan

theorem length_le_of_links_literal {literal : String}
    (hlink : (Step.literal literal).Links text stop pos made next) :
    pos + literal.toList.length ≤ stop := by
  cases hlink with
  | hit scanned => exact length_le_of_hit scanned
  | anchor scanned => exact absurd scanned (Probe.scan_ne_anchor rfl text _ _)

theorem inner?_of_links {s : Step} (htransform : s.transform = none)
    (hlink : s.Links text stop pos made next) : ∀ c ∈ made, c.inner? = none := by
  cases hlink with
  | hit scanned =>
    intro c hc
    rw [Step.capturesOf, htransform] at hc
    split at hc
    · rw [List.mem_singleton.mp hc]
      rfl
    · exact absurd hc List.not_mem_nil
  | anchor scanned => simp

theorem opening_of_hit {opening closing : Char}
    (hscan : (Probe.bracket opening closing).scan text ⟨pos, stop⟩ = .hit found) :
    text[pos]? = some opening := by
  rw [scan_bracket, groupEnd?] at hscan
  split at hscan
  · rename_i e hend
    split at hend
    · rename_i hopen
      simp only [Bool.and_eq_true, decide_eq_true_eq] at hopen
      exact hopen.2
    · exact absurd hend (by simp)
  · exact Outcome.noConfusion hscan

theorem searchAll_eq_nil_of_not_mem {steps : List Step} {s : Step} {opening closing : Char}
    (hs : s ∈ steps) (hprobe : s.probe = .bracket opening closing) (h : opening ∉ text.toList) :
    searchAll steps text = [] := by
  rw [List.eq_nil_iff_forall_not_mem]
  intro m hm
  obtain ⟨start, -, -, hchain⟩ := chain_of_mem_search hm
  obtain ⟨windows, positions, made, -, hlinks, -⟩ := hchain.exists_numbering
  obtain ⟨i, hi, rfl⟩ := List.getElem_of_mem hs
  obtain ⟨-, -, -, hlink⟩ := hlinks i hi
  generalize windows (i + 1) = next at hlink
  generalize made i = captures at hlink
  cases hlink with
  | hit scanned =>
    rw [hprobe] at scanned
    have hopening := opening_of_hit scanned
    rw [← Array.getElem?_toList] at hopening
    exact h (List.mem_of_getElem? hopening)
  | anchor scanned =>
    rw [hprobe] at scanned
    exact Probe.scan_ne_anchor rfl text _ _ scanned

end Scan
end Autocomplete
