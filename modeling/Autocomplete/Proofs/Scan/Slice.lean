import Autocomplete.Proofs.Scan.Aligned
import Autocomplete.Proofs.Scan.Chain
import Autocomplete.Scan.Rule

/-!
# Scanning a window and scanning its text

Steps that do not move back cannot tell a window from a text of its own. In particular the steps
that scan inside a nested hit see nothing of the text around it.
-/

namespace Autocomplete
namespace Scan

variable {text : Array Char}

theorem Probe.scan_ne_anchor {p : Probe} (h : p.movesBack = false) (text : Array Char) (w : Window)
    (offset : Nat) : p.scan text w ≠ .anchor offset := by
  induction p with
  | literal _ =>
    unfold scan
    split <;> exact Outcome.noConfusion
  | oneOf _ =>
    unfold scan firstOf
    dsimp only
    split <;> exact Outcome.noConfusion
  | run _ _ | spacedWord =>
    unfold scan
    dsimp only
    split <;> exact Outcome.noConfusion
  | oneOfAtStart ls =>
    unfold scan
    split <;> exact Outcome.noConfusion
  | bracket opening closing =>
    unfold scan
    split
    · split <;> exact Outcome.noConfusion
    · exact Outcome.noConfusion
  | backward _ | lineStart => exact absurd h Bool.noConfusion
  | shifted inner delta ih =>
    unfold scan
    cases hscan : inner.scan text w with
    | anchor offset' =>
      intro heq
      obtain rfl := Outcome.anchor.inj heq
      exact ih h hscan
    | hit found => exact Outcome.noConfusion
    | miss resume => exact Outcome.noConfusion
  | orElse first second ihfirst ihsecond =>
    rw [movesBack, Bool.or_eq_false_iff] at h
    unfold scan
    split
    · exact ihsecond h.2
    · exact ihfirst h.1

/-- Whatever a chain of such steps captures, it captures inside the window it starts from. -/
theorem Chain.captured_inside {steps : List Step} {w : Window} {m : Match}
    (h : Chain text steps w m) (hback : ∀ s ∈ steps, s.probe.movesBack = false)
    (hle : w.start ≤ w.stop) :
    ∀ c ∈ m, ∃ s ∈ steps, ∃ v : Window,
      w.start ≤ v.start ∧ v.start ≤ v.stop ∧ v.stop ≤ w.stop ∧ c ∈ s.capturesOf text v := by
  induction h with
  | nil =>
    intro c hc
    simp at hc
  | @cons s rest w next pos made m le lt fixed link tail ih =>
    have hrest : ∀ t ∈ rest, t.probe.movesBack = false :=
      fun t ht => hback t (List.mem_cons_of_mem s ht)
    cases link with
    | @hit found scanned =>
      have hbounds := s.probe.scan_inBounds text (w := ⟨pos, w.stop⟩) (Nat.le_of_lt lt)
      rw [scanned] at hbounds
      -- The window of the next step is the hit or what follows it, so it lies in this window too.
      obtain ⟨hnext, hspan, hend⟩ := s.windowAfter_bounds hbounds
      obtain ⟨hstart, hfound, hstop⟩ := hbounds
      intro c hc
      rcases List.mem_append.mp hc with hc | hc
      · exact ⟨s, List.mem_cons_self, found, Nat.le_trans le hstart, hfound, hstop, hc⟩
      · obtain ⟨t, ht, v, hv, hvspan, hvstop, hcapture⟩ := ih hrest hspan c hc
        exact ⟨t, List.mem_cons_of_mem s ht, v, Nat.le_trans le (Nat.le_trans hnext hv), hvspan,
          Nat.le_trans hvstop hend, hcapture⟩
    | @anchor offset scanned =>
      exact absurd scanned (Probe.scan_ne_anchor (hback s List.mem_cons_self) text _ offset)

theorem Window.moved_size {v : Window} (h : v.start ≤ v.stop) :
    Window.moved ⟨0, v.size⟩ v.start = v := by
  rw [Window.moved, Window.size, Nat.zero_add, Nat.sub_add_cancel h]

theorem follow_eq_follow_slice {steps : List Step} (before : List Capture) {v : Window}
    (hback : ∀ s ∈ steps, s.probe.movesBack = false) (h : v.Within text.size) :
    follow steps text before v =
      ((follow steps (v.slice text) before ⟨0, v.size⟩).1,
        (follow steps (v.slice text) before ⟨0, v.size⟩).2 + v.start) := by
  have hfollow := (Aligned.of_slice text v h).follow_eq steps before (w := ⟨0, v.size⟩)
    (fun s hs => Or.inr (hback s hs)) (Nat.zero_le _) (Nat.le_refl _)
  rw [Window.moved_size h.1] at hfollow
  exact hfollow

theorem search_eq_searchAll_slice {steps : List Step} {v : Window}
    (hback : ∀ s ∈ steps, s.probe.movesBack = false) (h : v.Within text.size) :
    search steps text v = searchAll steps (v.slice text) := by
  have hsearch := (Aligned.of_slice text v h).search_eq steps (w := ⟨0, v.size⟩)
    (fun s hs => Or.inr (hback s hs)) (Nat.le_refl _)
  rw [Window.moved_size h.1] at hsearch
  rw [hsearch, searchAll, Window.size_slice h]

/-- Steps that do not move back find in a window what they find in the text of the window alone,
and go on from the same place of it; so does a rule. After a nested hit such steps capture nothing
that does not lie inside the hit. -/
theorem windows_are_texts_of_their_own :
    (∀ (steps : List Step) (text : Array Char) (before : List Capture) (start stop : Nat),
      (∀ s ∈ steps, s.probe.movesBack = false) → start ≤ stop → stop ≤ text.size →
        follow steps text before ⟨start, stop⟩ =
          ((follow steps (text.extract start stop) before ⟨0, stop - start⟩).1,
            (follow steps (text.extract start stop) before ⟨0, stop - start⟩).2 + start)) ∧
    (∀ (r : Rule) (text : String) (start stop : Nat),
      (∀ s ∈ r.steps, s.probe.movesBack = false) → start ≤ stop → stop ≤ text.length →
        r.findIn text ⟨start, stop⟩ =
          .ok (r.findAll (String.ofList ((text.toList.drop start).take (stop - start))))) ∧
    (∀ (s : Step) (rest : List Step) (text : Array Char) (before : List Capture) (pos stop : Nat)
      (hit : Window), s.nested = true → (∀ t ∈ rest, t.probe.movesBack = false) →
        pos ≤ stop → s.probe.scan text ⟨pos, stop⟩ = .hit hit →
        ∀ m ∈ (follow rest text before (s.windowAfter hit stop)).1,
          ∃ made, m = before ++ made ∧ ∀ c ∈ made, ∃ t ∈ rest, ∃ v : Window,
            hit.start ≤ v.start ∧ v.start ≤ v.stop ∧ v.stop ≤ hit.stop ∧
              c ∈ t.capturesOf text v) := by
  refine ⟨?_, ?_, ?_⟩
  · intro steps text before start stop hback hle hstop
    exact follow_eq_follow_slice before (v := ⟨start, stop⟩) hback ⟨hle, hstop⟩
  · intro r text start stop hback hle hstop
    have hwithin : Window.Within ⟨start, stop⟩ text.toList.toArray.size := by
      rw [List.size_toArray, String.length_toList]
      exact ⟨hle, hstop⟩
    have hsearch := search_eq_searchAll_slice hback hwithin
    rw [Rule.findIn, Window.fault?_eq_none_iff.mpr hwithin, hsearch, Rule.findAll,
      String.toList_ofList, Window.slice, List.extract_toArray, List.extract_eq_take_drop]
  · intro s rest text before pos stop hit hnested hback hle hscan m hm
    have hbounds := s.probe.scan_inBounds text (w := ⟨pos, stop⟩) hle
    rw [hscan] at hbounds
    rw [Step.windowAfter, if_pos hnested] at hm
    obtain ⟨made, hmade, hchain⟩ := chain_of_mem_follow hm
    exact ⟨made, hmade, hchain.captured_inside hback hbounds.2.1⟩

def callSteps : List Step :=
  [(Step.literal "f").repeating, (Step.bracket '(' ')').entering, Step.literal "(",
    Step.word.repeating.saving]

theorem windows_are_texts_of_their_own_in_a_call :
    (∀ s ∈ callSteps, s.probe.movesBack = false) ∧
    follow callSteps "f(a)+f(b,c)".toList.toArray [] ⟨5, 11⟩ =
      ([[.text "b"], [.text "c"]], 11) ∧
    Rule.findIn ⟨callSteps, rfl⟩ "f(a)+f(b,c)" ⟨5, 11⟩ = .ok [[.text "b"], [.text "c"]] ∧
    (callSteps[1].probe.scan "f(a)+f(b,c)".toList.toArray ⟨6, 11⟩ = .hit ⟨6, 11⟩ ∧
      ∀ m ∈ (follow (callSteps.drop 2) "f(a)+f(b,c)".toList.toArray [] ⟨6, 11⟩).1,
        ∃ made, m = [] ++ made ∧ ∀ c ∈ made, ∃ t ∈ callSteps.drop 2, ∃ v : Window,
          6 ≤ v.start ∧ v.start ≤ v.stop ∧ v.stop ≤ 11 ∧
            c ∈ t.capturesOf "f(a)+f(b,c)".toList.toArray v) := by
  have hback : ∀ s ∈ callSteps, s.probe.movesBack = false := by decide
  have hrest : ∀ t ∈ callSteps.drop 2, t.probe.movesBack = false :=
    fun t ht => hback t (List.mem_of_mem_drop ht)
  have hscan : callSteps[1].probe.scan "f(a)+f(b,c)".toList.toArray ⟨6, 11⟩ = .hit ⟨6, 11⟩ := rfl
  obtain ⟨hfollow, hfind, hinside⟩ := windows_are_texts_of_their_own
  refine ⟨hback, ?_, ?_, hscan, ?_⟩
  · rw [hfollow callSteps _ [] 5 11 hback (by decide) (by decide)]
    rfl
  · rw [hfind ⟨callSteps, rfl⟩ _ 5 11 hback (by decide) (by decide)]
    rfl
  · exact hinside callSteps[1] (callSteps.drop 2) _ [] 6 11 ⟨6, 11⟩ rfl hrest (by decide) hscan

end Scan
end Autocomplete
