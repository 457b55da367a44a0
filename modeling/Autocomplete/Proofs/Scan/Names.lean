import Autocomplete.Proofs.Scan.Chain
import Autocomplete.Proofs.Scan.Pieces

/-!
# Captured names

A step that reads a word captures an identifier, wherever in the text it is tried: what stands
around the word, and how the search came there, does not matter. A step with a transform captures
what the transform finds in a text.
-/

namespace Autocomplete
namespace Scan

open Text

/-- The probes whose hits are words. -/
def Probe.readsName : Probe → Bool
  | .run .word mayBeEmpty => !mayBeEmpty
  | .spacedWord => true
  | _ => false

/-- Every step that captures a text as it is reads a word. -/
def capturesNames (steps : List Step) : Bool :=
  steps.all fun s => !s.captured || s.transform.isSome || s.probe.readsName

variable {text : Array Char}

theorem AllIn.exists_identifier {found : Window} (h : AllIn text isNameChar found)
    (hlt : found.start < found.stop) : ∃ i : Identifier, (found.slice text).toList = i.chars :=
  ⟨⟨_, h.slice_ne_nil hlt, h.all_slice⟩, rfl⟩

theorem Probe.exists_identifier_of_hit {p : Probe} (hp : p.readsName = true) {pos stop : Nat}
    {found : Window} (hle : pos ≤ stop) (hscan : p.scan text ⟨pos, stop⟩ = .hit found) :
    ∃ i : Identifier, (found.slice text).toList = i.chars := by
  -- Either probe hits the run of name characters from some offset on, if it is not empty.
  obtain ⟨start, hstart, hend, rfl⟩ : ∃ start ≤ stop,
      runEnd (charAtSatisfies text isNameChar) start stop ≠ start ∧
        found = ⟨start, runEnd (charAtSatisfies text isNameChar) start stop⟩ := by
    cases p with
    | run kind mayBeEmpty =>
      obtain ⟨rfl, rfl⟩ : kind = .word ∧ mayBeEmpty = false := by
        cases kind <;> simp_all [readsName]
      have hkind : (fun i => charAtSatisfies text (CharKind.word.accepts (i == pos)) i) =
        charAtSatisfies text isNameChar := rfl
      simp only [scan, hkind] at hscan
      split at hscan
      · exact Outcome.noConfusion hscan
      · rename_i hend
        exact ⟨pos, hle, by simpa using hend, (Outcome.hit.inj hscan).symm⟩
    | spacedWord =>
      simp only [scan] at hscan
      split at hscan
      · exact Outcome.noConfusion hscan
      · rename_i hend
        exact ⟨_, runEnd_le hle, hend, (Outcome.hit.inj hscan).symm⟩
    | literal _ | oneOf _ | oneOfAtStart _ | bracket _ _ | backward _ | lineStart | shifted _ _
    | orElse _ _ => simp [readsName] at hp
  have hrun := le_runEnd (charAtSatisfies text isNameChar) start stop
  refine AllIn.exists_identifier ⟨hrun, fun i hi hlt => of_lt_runEnd hi hlt hstart⟩ ?_
  exact Nat.lt_of_le_of_ne hrun (Ne.symm hend)

/-- A step that captures has captured the matched text, or what its transform finds in it. -/
theorem Step.of_mem_capturesOf {s : Step} {found : Window} {c : Capture}
    (h : c ∈ s.capturesOf text found) :
    s.captured = true ∧
      (s.transform = none ∧ c = .text (String.ofList (found.slice text).toList) ∨
        ∃ inner, s.transform = some inner ∧ c = .inner (searchAll inner (found.slice text))) := by
  unfold Step.capturesOf at h
  split at h
  · rename_i hcaptured
    refine ⟨hcaptured, ?_⟩
    split at h
    · exact Or.inl ⟨‹_›, List.mem_singleton.mp h⟩
    · exact Or.inr ⟨_, ‹_›, List.mem_singleton.mp h⟩
  · simp at h

/-- Each capture of a match was made by a step where its probe hit. -/
theorem Chain.exists_hit_of_mem {steps : List Step} {w : Window} {m : Match}
    (h : Chain text steps w m) :
    ∀ c ∈ m, ∃ s ∈ steps, ∃ pos stop found, pos ≤ stop ∧
      s.probe.scan text ⟨pos, stop⟩ = .hit found ∧ c ∈ s.capturesOf text found := by
  induction h with
  | nil => simp
  | @cons s rest w next pos made m le lt fixed link tail ih =>
    intro c hc
    rcases List.mem_append.mp hc with hc | hc
    · cases link with
      | @hit found scanned =>
        exact ⟨s, List.mem_cons_self, pos, w.stop, found, Nat.le_of_lt lt, scanned, hc⟩
      | anchor scanned => simp at hc
    · obtain ⟨t, ht, hcapture⟩ := ih c hc
      exact ⟨t, List.mem_cons_of_mem s ht, hcapture⟩

section Search

variable {steps : List Step} {w : Window} {m : Match} {index : Nat}

theorem exists_identifier_of_mem_search (hnames : capturesNames steps = true)
    (hm : m ∈ search steps text w) {value : String} (hvalue : m.text? index = some value) :
    ∃ i : Identifier, value = i.text := by
  obtain ⟨c, hc, hvalue⟩ := Option.bind_eq_some_iff.mp hvalue
  obtain ⟨start, -, -, hchain⟩ := chain_of_mem_search hm
  obtain ⟨s, hs, pos, stop, found, hle, hscan, hmade⟩ :=
    hchain.exists_hit_of_mem c (List.mem_of_getElem? hc)
  have hstep := List.all_eq_true.mp hnames s hs
  rcases Step.of_mem_capturesOf hmade with ⟨hcaptured, ⟨htransform, rfl⟩ | ⟨inner, -, rfl⟩⟩
  · have hname : s.probe.readsName = true := by simpa [hcaptured, htransform] using hstep
    obtain ⟨i, hi⟩ := Probe.exists_identifier_of_hit hname hle hscan
    refine ⟨i, ?_⟩
    rw [Identifier.text, ← hi]
    exact (Option.some.inj hvalue).symm
  · simp [Capture.text?] at hvalue

/-- What is captured otherwise was found by the transform of a step. -/
theorem exists_transform_of_mem_search (hm : m ∈ search steps text w) {found : List Match}
    (hfound : m.inner? index = some found) :
    ∃ inner ∈ steps.filterMap (·.transform), ∃ matched, found = searchAll inner matched := by
  obtain ⟨c, hc, hfound⟩ := Option.bind_eq_some_iff.mp hfound
  obtain ⟨start, -, -, hchain⟩ := chain_of_mem_search hm
  obtain ⟨s, hs, pos, stop, hit, -, -, hmade⟩ :=
    hchain.exists_hit_of_mem c (List.mem_of_getElem? hc)
  rcases Step.of_mem_capturesOf hmade with ⟨-, ⟨-, rfl⟩ | ⟨inner, htransform, rfl⟩⟩
  · simp [Capture.inner?] at hfound
  · have hinner := List.mem_filterMap.mpr ⟨s, hs, htransform⟩
    exact ⟨inner, hinner, _, (Option.some.inj hfound).symm⟩

theorem exists_identifiers_of_pair? (hnames : capturesNames steps = true)
    (hm : m ∈ search steps text w) {first second : String}
    (hpair : m.pair? = some (first, second)) :
    (∃ i : Identifier, first = i.text) ∧ ∃ i : Identifier, second = i.text := by
  unfold Match.pair? at hpair
  split at hpair
  · rename_i hfirst hsecond
    obtain ⟨rfl, rfl⟩ := Prod.mk.inj (Option.some.inj hpair)
    exact ⟨exists_identifier_of_mem_search hnames hm hfirst,
      exists_identifier_of_mem_search hnames hm hsecond⟩
  · simp at hpair

end Search

end Scan
end Autocomplete
