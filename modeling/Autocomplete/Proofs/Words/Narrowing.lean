import Autocomplete.Proofs.Text.Casing
import Autocomplete.Proofs.Words.Ranking
import Autocomplete.Store

/-!
# Typing more

Whatever is offered for a longer beginning of a word is offered for a shorter one too, since both
are compared in lowercase and the lowercase form of the shorter one starts that of the longer one.
The exception is a capital sigma at the end of a word. It is typed as a final sigma, and turns into
another letter as soon as the word goes on. Then the words that are offered before and after have
nothing in common.
-/

namespace Autocomplete
namespace Words

open Scan Text

section

variable {typed more : String}

theorem extract_append_subset (h : ¬ContinuesSigma typed.toList more.toList) (text : String)
    (cursor : Option Nat) : extract text (typed ++ more) cursor ⊆ extract text typed cursor := by
  intro word hword
  rw [mem_extract_iff] at hword ⊢
  exact ⟨(startsWithIgnoringCase_iff_of_append hword.1).mpr h, hword.2⟩

theorem disjoint_extract_append (h : ContinuesSigma typed.toList more.toList) (text : String)
    (cursor : Option Nat) :
    (extract text (typed ++ more) cursor).Disjoint (extract text typed cursor) := by
  intro word hlonger hshorter
  rw [mem_extract_iff] at hlonger hshorter
  exact (startsWithIgnoringCase_iff_of_append hlonger.1).mp hshorter.1 h

theorem callItems_append_subset (h : ¬ContinuesSigma typed.toList more.toList) (s : Store) :
    s.callItems (typed ++ more) ⊆ s.callItems typed := by
  intro item hitem
  rw [Store.mem_callItems] at hitem ⊢
  obtain ⟨f, hf, c, hc, hstarts, hitem⟩ := hitem
  exact ⟨f, hf, c, hc, (startsWithIgnoringCase_iff_of_append hstarts).mpr h, hitem⟩

def oneCall (name : String) : Store := Store.put ∅ 0 { calls := [⟨name, ""⟩] }

theorem mem_callItems_oneCall {name word : String} {item : Item} :
    item ∈ (oneCall name).callItems word ↔
      startsWithIgnoringCase word name = true ∧ item = ⟨"", "" ++ ")"⟩ := by
  have hvalues : (oneCall name).values = [{ calls := [⟨name, ""⟩] }] := rfl
  simp [Store.mem_callItems, hvalues]

end

/-- Typing more only narrows what is offered, and what starts with the typed text is always offered,
unless a capital sigma that ends the typed text goes on. Then the words extracted for the longer and
for the shorter text have nothing in common, and stored calls get lost as well. -/
theorem typing_narrows_unless_sigma_continues (typed more : String) :
    (¬ContinuesSigma typed.toList more.toList →
      (∀ text cursor, extract text (typed ++ more) cursor ⊆ extract text typed cursor) ∧
      (∀ s : Store, s.callItems (typed ++ more) ⊆ s.callItems typed) ∧
      (∀ text cursor w, StandsAt text (typed ++ more) w → Apart cursor w →
        typed ++ more ∈ extract text typed cursor) ∧
      ∀ s : Store, ∀ f ∈ s.values, ∀ c ∈ f.calls, c.name = typed ++ more →
        (⟨c.snippet, c.snippet ++ ")"⟩ : Item) ∈ s.callItems typed) ∧
    (ContinuesSigma typed.toList more.toList →
      (∀ text cursor,
        (extract text (typed ++ more) cursor).Disjoint (extract text typed cursor)) ∧
      ∃ s : Store, ¬s.callItems (typed ++ more) ⊆ s.callItems typed) := by
  have hself := startsWithIgnoringCase_self (typed ++ more)
  constructor
  · intro h
    refine ⟨extract_append_subset h, callItems_append_subset h, ?_, ?_⟩
    · intro text cursor w hstands hapart
      exact extract_append_subset h text cursor (mem_extract_iff.mpr ⟨hself, w, hstands, hapart⟩)
    · intro s f hf c hc hname
      have hstarts : startsWithIgnoringCase (typed ++ more) c.name = true := by rw [hname, hself]
      exact callItems_append_subset h s (Store.mem_callItems.mpr ⟨f, hf, c, hc, hstarts, rfl⟩)
  · intro h
    refine ⟨disjoint_extract_append h, oneCall (typed ++ more), ?_⟩
    intro hsub
    have hlost := hsub (mem_callItems_oneCall.mpr ⟨hself, rfl⟩)
    exact (startsWithIgnoringCase_iff_of_append hself).mp (mem_callItems_oneCall.mp hlost).1 h

/-- A word that starts with what is typed is not offered when what is typed ends in a sigma. -/
theorem typed_sigma_hides_its_word :
    "ΑΣΑ" ∈ extract "ΑΣΑ" ("ΑΣ" ++ "Α") none ∧ "ΑΣΑ" ∉ extract "ΑΣΑ" "ΑΣ" none := by
  have hlonger : startsWithIgnoringCase ("ΑΣ" ++ "Α") "ΑΣΑ" = true := by decide +kernel
  have hshorter : startsWithIgnoringCase "ΑΣ" "ΑΣΑ" = false := by decide +kernel
  have hstands : StandsAt "ΑΣΑ" "ΑΣΑ" ⟨0, 3⟩ :=
    ⟨[], [], by simp, ⟨by simp, by decide +kernel, by simp, by simp⟩, by decide +kernel⟩
  constructor
  · rw [mem_extract_iff]
    exact ⟨hlonger, _, hstands, by simp [Apart]⟩
  · rw [mem_extract_iff, hshorter]
    simp

end Words
end Autocomplete
