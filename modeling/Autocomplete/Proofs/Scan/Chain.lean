import Autocomplete.Proofs.Scan.Attempt

/-!
# Why a search reports a match

A match is justified by a chain: every step succeeds at some position of the window that the step
before it left, and the captures of the match are those of the links in order. The links are stated
with the outcome of the probe alone, so that neither sweeping nor the handling of captures occurs in
them.
-/

namespace Autocomplete
namespace Scan

variable {text : Array Char}

/-- What a step captures at the hit `found`: nothing unless it saves, else the matched text, or the
matches of the transform over the matched text alone. -/
def Step.capturesOf (s : Step) (text : Array Char) (found : Window) : List Capture :=
  if s.captured then
    match s.transform with
    | none => [.text (String.ofList (found.slice text).toList)]
    | some steps => [.inner (searchAll steps (found.slice text))]
  else []

theorem Step.kept_record (s : Step) (text : Array Char) (found : Window) :
    s.kept (record s) text found = s.capturesOf text found := by
  unfold Step.kept Step.capturesOf
  cases htransform : s.transform with
  | none => rw [record_of_transform_eq_none htransform]
  | some steps => rw [record_of_transform_eq_some htransform]

/-- The step succeeds at `pos` in a window that ends at `stop`; it makes some captures and leaves a
window to the steps after it. An anchor captures nothing, and a nested one leaves no characters. -/
inductive Step.Links (s : Step) (text : Array Char) (stop pos : Nat) :
    List Capture → Window → Prop
  | hit {found : Window} (scanned : s.probe.scan text ⟨pos, stop⟩ = .hit found) :
      Links s text stop pos (s.capturesOf text found)
        (if s.nested then found else ⟨found.stop, stop⟩)
  | anchor {offset : Nat} (scanned : s.probe.scan text ⟨pos, stop⟩ = .anchor offset) :
      Links s text stop pos [] (if s.nested then ⟨offset, offset⟩ else ⟨offset, stop⟩)

/-- The steps succeed one after the other, each at a position of the window that the one before it
left, and at its start unless the step loops. -/
inductive Chain (text : Array Char) : List Step → Window → Match → Prop
  | nil {w : Window} : Chain text [] w []
  | cons {s : Step} {rest : List Step} {w next : Window} {pos : Nat} {made : List Capture}
      {m : Match} (le : w.start ≤ pos) (lt : pos < w.stop)
      (fixed : s.looping = false → pos = w.start) (link : s.Links text w.stop pos made next)
      (tail : Chain text rest next m) : Chain text (s :: rest) w (made ++ m)

theorem chain_of_mem_follow {steps : List Step} {before : List Capture} {w : Window} {m : Match}
    (h : m ∈ (follow steps text before w).1) :
    ∃ made, m = before ++ made ∧ Chain text steps w made := by
  induction steps generalizing before w with
  | nil =>
    have hm : m = before := by simpa [follow_nil] using h
    exact ⟨[], by rw [hm, List.append_nil], .nil⟩
  | cons s rest ih =>
    rw [follow_cons] at h
    obtain ⟨pos, hle, hlt, hfixed, hmem⟩ := Step.exists_attempt_of_mem h
    cases hscan : s.probe.scan text ⟨pos, w.stop⟩ with
    | hit found =>
      rw [Step.attempt_of_hit _ _ hscan] at hmem
      obtain ⟨made, hm, htail⟩ := ih hmem
      rw [s.kept_record, List.append_assoc] at hm
      exact ⟨_, hm, .cons hle hlt hfixed (.hit hscan) htail⟩
    | anchor offset =>
      rw [Step.attempt_of_anchor _ _ hscan] at hmem
      obtain ⟨made, hm, htail⟩ := ih hmem
      have hnext : s.windowAt offset w.stop =
          if s.nested then ⟨offset, offset⟩ else ⟨offset, w.stop⟩ := by
        unfold Step.windowAt
        split <;> rfl
      rw [hnext] at htail
      exact ⟨made, hm, .cons hle hlt hfixed (.anchor hscan) htail⟩
    | miss resume =>
      rw [Step.attempt_of_miss _ _ hscan] at hmem
      simp at hmem

/-- The driver starts the steps over at later positions of the same window. -/
theorem chain_of_mem_search {steps : List Step} {w : Window} {m : Match}
    (h : m ∈ search steps text w) :
    ∃ pos, w.start ≤ pos ∧ pos < w.stop ∧ Chain text steps ⟨pos, w.stop⟩ m := by
  obtain ⟨pos, hle, hlt, hmem⟩ := exists_visit_of_mem_sweep h
  obtain ⟨made, rfl, hchain⟩ := chain_of_mem_follow hmem
  exact ⟨pos, hle, hlt, hchain⟩

def inFront {α : Type} (first : α) (later : Nat → α) : Nat → α
  | 0 => first
  | i + 1 => later i

/-- The windows, positions and captures along a chain, numbered by the steps. -/
theorem Chain.exists_numbering {steps : List Step} {w : Window} {m : Match}
    (h : Chain text steps w m) :
    ∃ (windows : Nat → Window) (positions : Nat → Nat) (made : Nat → List Capture),
      windows 0 = w ∧
      (∀ (i : Nat) (hi : i < steps.length),
        (windows i).start ≤ positions i ∧ positions i < (windows i).stop ∧
        (steps[i].looping = false → positions i = (windows i).start) ∧
        steps[i].Links text (windows i).stop (positions i) (made i) (windows (i + 1))) ∧
      m = (List.range steps.length).flatMap made := by
  induction h with
  | @nil w =>
    refine ⟨fun _ => w, fun _ => 0, fun _ => [], rfl, ?_, rfl⟩
    intro i hi
    exact absurd hi (Nat.not_lt_zero i)
  | @cons s rest w next pos made m le lt fixed link tail ih =>
    obtain ⟨windows, positions, later, hnext, hlinks, rfl⟩ := ih
    rw [← hnext] at link
    refine ⟨inFront w windows, inFront pos positions, inFront made later, rfl, ?_, ?_⟩
    · intro i hi
      cases i with
      | zero => exact ⟨le, lt, fixed, link⟩
      | succ i => exact hlinks i (Nat.lt_of_succ_lt_succ hi)
    · rw [List.length_cons, List.range_succ_eq_map, List.flatMap_cons, List.flatMap_map]
      rfl

/-- There are windows, the scanned one first, and a position in each at which its step succeeds: any
position for the first step and for a looping one, else the start. Each window is what the step
before it left, and the match consists of what the steps captured, in their order. -/
def Justified (text : Array Char) (steps : List Step) (w : Window) (m : Match) : Prop :=
  ∃ (windows : Nat → Window) (positions : Nat → Nat) (made : Nat → List Capture),
    windows 0 = w ∧
    (∀ (i : Nat) (hi : i < steps.length),
      (windows i).start ≤ positions i ∧ positions i < (windows i).stop ∧
      (0 < i → steps[i].looping = false → positions i = (windows i).start) ∧
      steps[i].Links text (windows i).stop (positions i) (made i) (windows (i + 1))) ∧
    m = (List.range steps.length).flatMap made

/-- Every match that a search reports is justified by such windows, positions and captures. -/
theorem justified_of_mem_search {steps : List Step} {w : Window} {m : Match}
    (h : m ∈ search steps text w) : Justified text steps w m := by
  obtain ⟨pos, hle, -, hchain⟩ := chain_of_mem_search h
  obtain ⟨windows, positions, made, hfirst, hlinks, hm⟩ := hchain.exists_numbering
  -- Only the first window differs: the chain starts at `pos`, the scanned window before it.
  refine ⟨inFront w fun i => windows (i + 1), positions, made, rfl, ?_, hm⟩
  intro i hi
  obtain ⟨hstart, hstop, hfixed, hlink⟩ := hlinks i hi
  cases i with
  | zero =>
    rw [hfirst] at hstart hstop hlink
    exact ⟨Nat.le_trans hle hstart, hstop, fun hpos => absurd hpos (Nat.lt_irrefl 0), hlink⟩
  | succ i => exact ⟨hstart, hstop, fun _ => hfixed, hlink⟩

/-- Steps that move back to an opening bracket, rescan the group and go on inside it. -/
def groupSteps : List Step :=
  [.literal "(", .backward 1,
    (Step.bracket '(' ')').entering.saving.rescanning [(Step.oneOf ["a", "b"]).saving],
    (Step.literal "b").repeating.saving]

theorem justified_in_group :
    [.inner [[.text "a"], [.text "b"]], .text "b"] ∈
        search groupSteps "x(a,b)".toList.toArray ⟨0, 6⟩ ∧
      Justified "x(a,b)".toList.toArray groupSteps ⟨0, 6⟩
        [.inner [[.text "a"], [.text "b"]], .text "b"] := by
  have hsearch : search groupSteps "x(a,b)".toList.toArray ⟨0, 6⟩ =
      [[.inner [[.text "a"], [.text "b"]], .text "b"]] := rfl
  have hmem : [.inner [[.text "a"], [.text "b"]], .text "b"] ∈
      search groupSteps "x(a,b)".toList.toArray ⟨0, 6⟩ := by
    rw [hsearch]
    exact List.mem_singleton_self _
  exact ⟨hmem, justified_of_mem_search hmem⟩

end Scan
end Autocomplete
