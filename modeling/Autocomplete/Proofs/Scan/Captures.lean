import Autocomplete.Proofs.Scan.Slice
import Mathlib.Data.List.Forall2

/-!
# The captures of a match

A step whose probe does not move back succeeds with a hit only, so that every saving step makes one
capture of each match. A transform changes that capture and nothing else: the search goes on from
the same position with the same windows whether the steps have transforms or not.
-/

namespace Autocomplete
namespace Scan

namespace Step

def withoutTransform (s : Step) : Step := { s with transform := none }

end Step

def savingSteps (steps : List Step) : List Step := steps.filter (·.captured)

/-- The capture that a step makes of a text that was captured as it is. -/
def Capture.retaken (s : Step) : Capture → Capture
  | .text value => record s value.toList.toArray
  | .inner found => .inner found

/-- The captures that the steps make of the texts of a match. -/
def Match.retaken (saving : List Step) (m : Match) : Match :=
  List.zipWith Capture.retaken saving m

namespace Rule

def withoutTransforms (r : Rule) : Rule where
  steps := r.steps.map Step.withoutTransform
  faultless := by
    obtain ⟨hne, hsteps⟩ := ruleFault?_eq_none_iff.mp r.faultless
    rw [ruleFault?_eq_none_iff]
    refine ⟨by simpa using hne, ?_⟩
    rw [stepsFault?_eq_none_iff] at hsteps ⊢
    intro s hs
    obtain ⟨t, ht, rfl⟩ := List.mem_map.mp hs
    exact ⟨(hsteps t ht).1, rfl⟩

end Rule

variable {text : Array Char} {steps : List Step} {w : Window}

theorem savingSteps_cons_of_captured {s : Step} (h : s.captured = true) (rest : List Step) :
    savingSteps (s :: rest) = s :: savingSteps rest :=
  List.filter_cons_of_pos h

theorem savingSteps_cons_of_not_captured {s : Step} (h : s.captured = false) (rest : List Step) :
    savingSteps (s :: rest) = savingSteps rest :=
  List.filter_cons_of_neg (by simp [h])

theorem record_withoutTransform (s : Step) (matched : Array Char) :
    record s.withoutTransform matched = .text (String.ofList matched.toList) :=
  record_of_transform_eq_none rfl matched

theorem retaken_record_withoutTransform (s : Step) (matched : Array Char) :
    (record s.withoutTransform matched).retaken s = record s matched := by
  rw [record_withoutTransform, Capture.retaken, String.toList_ofList]

theorem Chain.forall₂_captures {m : Match} (h : Chain text steps w m)
    (hback : ∀ s ∈ steps, s.captured = true → s.probe.movesBack = false) :
    List.Forall₂ (fun s c => ∃ matched : Array Char, c = record s matched)
      (savingSteps steps) m := by
  induction h with
  | nil => exact .nil
  | @cons s rest w next pos made m le lt fixed link tail ih =>
    have hrest := ih fun t ht => hback t (List.mem_cons_of_mem s ht)
    cases link with
    | @hit found scanned =>
      rw [← s.kept_record, Step.kept]
      cases hcaptured : s.captured with
      | true =>
        rw [savingSteps_cons_of_captured hcaptured, if_pos rfl]
        exact .cons ⟨_, rfl⟩ hrest
      | false =>
        rw [savingSteps_cons_of_not_captured hcaptured, if_neg Bool.false_ne_true]
        exact hrest
    | @anchor offset scanned =>
      cases hcaptured : s.captured with
      | true =>
        have hmoves := hback s List.mem_cons_self hcaptured
        exact absurd scanned (Probe.scan_ne_anchor hmoves text _ offset)
      | false =>
        rw [savingSteps_cons_of_not_captured hcaptured]
        exact hrest

/-- Retaking the captures of a match retakes the one of the first step, if it makes one. -/
theorem retaken_kept_append (s : Step) (rest : List Step) (text : Array Char) (hit : Window)
    (m : Match) :
    Match.retaken (savingSteps (s :: rest))
        (s.withoutTransform.kept (record s.withoutTransform) text hit ++ m) =
      s.kept (record s) text hit ++ Match.retaken (savingSteps rest) m := by
  cases hcaptured : s.captured with
  | true =>
    have hcaptured' : s.withoutTransform.captured = true := hcaptured
    simp [Step.kept, hcaptured, hcaptured', savingSteps_cons_of_captured, Match.retaken,
      retaken_record_withoutTransform]
  | false =>
    have hcaptured' : s.withoutTransform.captured = false := hcaptured
    simp [Step.kept, hcaptured, hcaptured', savingSteps_cons_of_not_captured]

/-- Following steps with their transforms finds what following them without finds, with each text
retaken, and goes on from the same position. -/
theorem follow_eq_retaken (hback : ∀ s ∈ steps, s.captured = true → s.probe.movesBack = false)
    (w : Window) :
    follow steps text [] w =
      ((follow (steps.map Step.withoutTransform) text [] w).1.map
        (Match.retaken (savingSteps steps)),
        (follow (steps.map Step.withoutTransform) text [] w).2) := by
  induction steps generalizing w with
  | nil => rfl
  | cons s rest ih =>
    have hrest := ih fun t ht => hback t (List.mem_cons_of_mem s ht)
    rw [List.map_cons, follow_cons, follow_cons]
    refine Step.attempts_map (s := s) (w := w) _ 0 fun pos _ _ => ?_
    rw [Nat.add_zero, Nat.add_zero]
    cases hscan : s.probe.scan text ⟨pos, w.stop⟩ with
    | hit hit =>
      have hscan' : s.withoutTransform.probe.scan text ⟨pos, w.stop⟩ = .hit hit := hscan
      have hwindow : s.withoutTransform.windowAfter hit w.stop = s.windowAfter hit w.stop := rfl
      rw [Step.attempt_of_hit _ _ hscan, Step.attempt_of_hit _ _ hscan', hwindow,
        follow_before rest, follow_before (rest.map Step.withoutTransform), hrest]
      simp only [List.map_map, Prod.mk.injEq, and_true, List.nil_append]
      apply List.map_congr_left
      intro m _
      exact (retaken_kept_append s rest text hit m).symm
    | anchor offset =>
      have hscan' : s.withoutTransform.probe.scan text ⟨pos, w.stop⟩ = .anchor offset := hscan
      have hwindow : s.withoutTransform.windowAt offset w.stop = s.windowAt offset w.stop := rfl
      -- an anchor saves nothing, so a step that saves must not give one
      have hcaptured : s.captured = false := by
        by_contra hne
        have hmoves := hback s List.mem_cons_self (by simpa using hne)
        exact Probe.scan_ne_anchor hmoves text _ offset hscan
      rw [Step.attempt_of_anchor _ _ hscan, Step.attempt_of_anchor _ _ hscan', hwindow, hrest,
        savingSteps_cons_of_not_captured hcaptured]
    | miss resume =>
      have hscan' : s.withoutTransform.probe.scan text ⟨pos, w.stop⟩ = .miss resume := hscan
      rw [Step.attempt_of_miss _ _ hscan, Step.attempt_of_miss _ _ hscan', List.map_nil]

theorem search_eq_retaken (hback : ∀ s ∈ steps, s.captured = true → s.probe.movesBack = false)
    (w : Window) :
    search steps text w =
      (search (steps.map Step.withoutTransform) text w).map
        (Match.retaken (savingSteps steps)) := by
  have hvisit : ∀ pos, w.start ≤ pos → pos < w.stop →
      follow steps text [] ⟨pos + 0, w.stop⟩ =
        ((follow (steps.map Step.withoutTransform) text [] ⟨pos, w.stop⟩).1.map
          (Match.retaken (savingSteps steps)),
          (follow (steps.map Step.withoutTransform) text [] ⟨pos, w.stop⟩).2 + 0) :=
    fun pos _ _ => follow_eq_retaken hback ⟨pos, w.stop⟩
  exact congrArg Prod.fst (sweep_map _ 0 hvisit)

theorem savingSteps_map_withoutTransform (steps : List Step) :
    savingSteps (steps.map Step.withoutTransform) =
      (savingSteps steps).map Step.withoutTransform := by
  rw [savingSteps, List.filter_map]
  rfl

theorem forall₂_texts_of_mem_search
    (hback : ∀ s ∈ steps, s.captured = true → s.probe.movesBack = false) {plain : Match}
    (h : plain ∈ search (steps.map Step.withoutTransform) text w) :
    List.Forall₂ (fun _ c => ∃ t : String, c = .text t) (savingSteps steps) plain := by
  obtain ⟨pos, -, -, hchain⟩ := chain_of_mem_search h
  have hback' : ∀ s ∈ steps.map Step.withoutTransform,
      s.captured = true → s.probe.movesBack = false := by
    intro s hs hcaptured
    obtain ⟨t, ht, rfl⟩ := List.mem_map.mp hs
    exact hback t ht hcaptured
  have hcaptures := hchain.forall₂_captures hback'
  rw [savingSteps_map_withoutTransform, List.forall₂_map_left_iff] at hcaptures
  refine hcaptures.imp fun s c hc => ?_
  obtain ⟨matched, rfl⟩ := hc
  exact ⟨_, record_withoutTransform s matched⟩

theorem Match.length_retaken {saving : List Step} {m : Match} (h : saving.length = m.length) :
    (m.retaken saving).length = saving.length := by
  rw [Match.retaken, List.length_zipWith, h, Nat.min_self]

theorem Match.getElem?_retaken {saving : List Step} {m : Match} {j : Nat} {s : Step} {c : Capture}
    (hs : saving[j]? = some s) (hc : m[j]? = some c) :
    (m.retaken saving)[j]? = some (c.retaken s) := by
  rw [Match.retaken, List.getElem?_zipWith_eq_some]
  exact ⟨s, c, hs, hc, rfl⟩

theorem Capture.retaken_text_of_none {s : Step} (h : s.transform = none) (t : String) :
    (Capture.text t).retaken s = .text t := by
  rw [Capture.retaken, record_of_transform_eq_none h, List.toList_toArray, String.ofList_toList]

theorem Capture.retaken_text_of_some {s : Step} {steps : List Step} (h : s.transform = some steps)
    (t : String) : (Capture.text t).retaken s = .inner (searchAll steps t.toList.toArray) := by
  rw [Capture.retaken, record_of_transform_eq_some h]

theorem exists_text_of_forall₂ {saving : List Step} {plain : Match} {j : Nat} {s : Step}
    (h : List.Forall₂ (fun _ c => ∃ t : String, c = .text t) saving plain)
    (hs : saving[j]? = some s) : ∃ t : String, plain[j]? = some (.text t) := by
  induction h generalizing j with
  | nil => simp at hs
  | cons hc _ ih =>
    cases j with
    | zero =>
      obtain ⟨t, rfl⟩ := hc
      exact ⟨t, rfl⟩
    | succ j => exact ih hs

theorem Rule.exists_ofSteps_transform (r : Rule) {s : Step} (hs : s ∈ r.steps) {steps : List Step}
    (htransform : s.transform = some steps) :
    ∃ sub : Rule, sub.steps = steps ∧ Rule.ofSteps steps = .ok sub := by
  obtain ⟨-, hsteps⟩ := ruleFault?_eq_none_iff.mp r.faultless
  obtain ⟨-, hstep⟩ := stepsFault?_eq_none_iff.mp hsteps s hs
  rw [htransform] at hstep
  obtain ⟨-, hrule⟩ := transformFault?_eq_none_iff.mp hstep
  exact ⟨⟨steps, hrule⟩, rfl, Rule.ofSteps_steps ⟨steps, hrule⟩⟩

/-- Of a rule in which no saving step moves back, every match has one capture for each saving step,
and the transforms are inert: without them the same matches are found, and the capture of a step
with a transform is what its steps find in the text captured without it. -/
theorem transforms_are_inert (r : Rule)
    (hback : ∀ s ∈ r.steps, s.captured = true → s.probe.movesBack = false) (text : String) :
    (∀ m ∈ r.findAll text, m.length = (savingSteps r.steps).length) ∧
    (r.findAll text).length = (r.withoutTransforms.findAll text).length ∧
    ∀ (i j : Nat) (m : Match) (s : Step),
      (r.findAll text)[i]? = some m → (savingSteps r.steps)[j]? = some s →
      ∃ (plain : Match) (t : String),
        (r.withoutTransforms.findAll text)[i]? = some plain ∧ plain[j]? = some (.text t) ∧
        (s.transform = none → m[j]? = some (.text t)) ∧
        (∀ steps, s.transform = some steps →
          ∃ sub : Rule, Rule.ofSteps steps = .ok sub ∧ m[j]? = some (.inner (sub.findAll t))) := by
  have hfind : r.findAll text =
      (r.withoutTransforms.findAll text).map (Match.retaken (savingSteps r.steps)) :=
    search_eq_retaken hback _
  have htexts : ∀ plain ∈ r.withoutTransforms.findAll text,
      List.Forall₂ (fun _ c => ∃ t : String, c = .text t) (savingSteps r.steps) plain :=
    fun plain hplain => forall₂_texts_of_mem_search hback hplain
  refine ⟨?_, ?_, ?_⟩
  · intro m hm
    rw [hfind] at hm
    obtain ⟨plain, hplain, rfl⟩ := List.mem_map.mp hm
    exact Match.length_retaken (htexts plain hplain).length_eq
  · rw [hfind, List.length_map]
  · intro i j m s hm hs
    rw [hfind, List.getElem?_map, Option.map_eq_some_iff] at hm
    obtain ⟨plain, hplain, rfl⟩ := hm
    obtain ⟨t, ht⟩ := exists_text_of_forall₂ (htexts plain (List.mem_of_getElem? hplain)) hs
    have hsaving : s ∈ r.steps := List.mem_of_mem_filter (List.mem_of_getElem? hs)
    refine ⟨plain, t, hplain, ht, ?_, ?_⟩
    · intro htransform
      rw [Match.getElem?_retaken hs ht, Capture.retaken_text_of_none htransform]
    · intro steps htransform
      obtain ⟨sub, hsteps, hsub⟩ := r.exists_ofSteps_transform hsaving htransform
      refine ⟨sub, hsub, ?_⟩
      rw [Match.getElem?_retaken hs ht, Capture.retaken_text_of_some htransform, Rule.findAll,
        hsteps]

def groupWords : Rule where
  steps := [Step.word.repeating.saving, (Step.bracket '(' ')').saving.rescanning
    [Step.word.repeating.saving]]
  faultless := rfl

theorem transforms_are_inert_for_group_words :
    (∀ s ∈ groupWords.steps, s.captured = true → s.probe.movesBack = false) ∧
    groupWords.findAll "f(a b) g" = [[.text "f", .inner [[.text "a"], [.text "b"]]]] ∧
    groupWords.withoutTransforms.findAll "f(a b) g" = [[.text "f", .text "(a b)"]] ∧
    ∃ (plain : Match) (t : String),
      (groupWords.withoutTransforms.findAll "f(a b) g")[0]? = some plain ∧
      plain[1]? = some (.text t) ∧
      ∃ sub : Rule, Rule.ofSteps [Step.word.repeating.saving] = .ok sub ∧
        sub.findAll t = [[.text "a"], [.text "b"]] := by
  have hback : ∀ s ∈ groupWords.steps, s.captured = true → s.probe.movesBack = false := by decide
  have hfind : groupWords.findAll "f(a b) g" =
      [[.text "f", .inner [[.text "a"], [.text "b"]]]] := rfl
  obtain ⟨-, -, hinert⟩ := transforms_are_inert groupWords hback "f(a b) g"
  obtain ⟨plain, t, hplain, ht, -, hsome⟩ :=
    hinert 0 1 _ groupWords.steps[1] (by rw [hfind]; rfl) rfl
  obtain ⟨sub, hsub, hinner⟩ := hsome _ rfl
  refine ⟨hback, hfind, rfl, plain, t, hplain, ht, sub, hsub, ?_⟩
  simpa using hinner.symm

end Scan
end Autocomplete
