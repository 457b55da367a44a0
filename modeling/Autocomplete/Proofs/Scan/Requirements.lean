import Autocomplete.Proofs.Scan.Literals
import Autocomplete.Proofs.Scan.Bracket
import Autocomplete.Proofs.Scan.Looping

/-!
# What a rule has to meet

A list of steps is checked requirement by requirement: that there is a step at all, then, step by
step, what each part of the probe needs, that a transform is captured, and the requirements of the
transform. A rule is refused with the fault of the first requirement that it does not meet, and what
meets them all is well formed at every depth of composition and rescanning.
-/

namespace Autocomplete
namespace Scan

namespace Probe

/-- The probes that a probe is composed of, from left to right. -/
def parts : Probe → List Probe
  | shifted inner _ => inner.parts
  | orElse first second => first.parts ++ second.parts
  | part => [part]

/-- The probe looks for given characters: for a literal, or for the brackets of a group. -/
def isVerbatim : Probe → Bool
  | literal _ | oneOf _ | oneOfAtStart _ | bracket _ _ => true
  | _ => false

/-- No literal and no list of literals is empty, and brackets differ, in every part of the probe. -/
inductive WellFormed : Probe → Prop where
  | literal {l : List Char} : l ≠ [] → WellFormed (.literal l)
  | oneOf {ls : List (List Char)} : ls ≠ [] → (∀ l ∈ ls, l ≠ []) → WellFormed (.oneOf ls)
  | oneOfAtStart {ls : List (List Char)} :
      ls ≠ [] → (∀ l ∈ ls, l ≠ []) → WellFormed (.oneOfAtStart ls)
  | run (kind : CharKind) (mayBeEmpty : Bool) : WellFormed (.run kind mayBeEmpty)
  | spacedWord : WellFormed .spacedWord
  | bracket {opening closing : Char} : opening ≠ closing → WellFormed (.bracket opening closing)
  | backward (count : Nat) : WellFormed (.backward count)
  | lineStart : WellFormed .lineStart
  | shifted {inner : Probe} (delta : Int) : WellFormed inner → WellFormed (.shifted inner delta)
  | orElse {first second : Probe} :
      WellFormed first → WellFormed second → WellFormed (.orElse first second)

end Probe

/-- There is a step, every probe is well formed, and every transform is captured and well formed. -/
inductive WellFormed : List Step → Prop where
  | intro {steps : List Step} (nonempty : steps ≠ [])
      (probes : ∀ s ∈ steps, s.probe.WellFormed)
      (captured : ∀ s ∈ steps, s.transform ≠ none → s.captured = true)
      (transforms : ∀ s ∈ steps, ∀ sub, s.transform = some sub → WellFormed sub) :
      WellFormed steps

/-- The probe is a part of a step, or of a step of a transform at any depth. -/
inductive HasPart : List Step → Probe → Prop where
  | here {steps : List Step} {s : Step} {p : Probe} : s ∈ steps → p ∈ s.probe.parts →
      HasPart steps p
  | inside {steps sub : List Step} {s : Step} {p : Probe} : s ∈ steps → s.transform = some sub →
      HasPart sub p → HasPart steps p

/-- What is asked of one place of a rule. -/
inductive Requirement where
  /-- A rule or a transform has a step. -/
  | nonempty (steps : List Step)
  /-- A probe that is not composed of others has something to look for. -/
  | part (p : Probe)
  /-- A step with a transform captures. -/
  | captured (isCaptured : Bool)

namespace Requirement

def Holds : Requirement → Prop
  | nonempty steps => steps ≠ []
  | part (.literal l) => l ≠ []
  | part (.oneOf ls) | part (.oneOfAtStart ls) => ls ≠ [] ∧ ∀ l ∈ ls, l ≠ []
  | part (.bracket opening closing) => opening ≠ closing
  | part _ => True
  | captured isCaptured => isCaptured = true

def fault : Requirement → Fault
  | nonempty _ => .emptyRule
  | part (.bracket opening _) => .ambiguousBracket opening
  | part _ => .emptyLiteral
  | captured _ => .transformWithoutCapture

instance : DecidablePred Holds
  | nonempty steps => decidable_of_iff (steps.isEmpty = false) (by simp [Holds])
  | part (.literal _) => inferInstanceAs (Decidable (_ ≠ _))
  | part (.oneOf ls) | part (.oneOfAtStart ls) =>
    have := List.decidableBAll (· ≠ []) ls
    inferInstanceAs (Decidable (_ ∧ _))
  | part (.bracket _ _) => inferInstanceAs (Decidable (_ ≠ _))
  | part (.run _ _) | part .spacedWord | part (.backward _) | part .lineStart
  | part (.shifted _ _) | part (.orElse _ _) => .isTrue trivial
  | captured isCaptured => inferInstanceAs (Decidable (isCaptured = true))

/-- The fault of the requirement, unless it is met. -/
def fault? (r : Requirement) : Option Fault := if r.Holds then none else some r.fault

theorem fault?_eq_none_iff {r : Requirement} : r.fault? = none ↔ r.Holds := by
  simp [fault?]

theorem fault?_eq_some_iff {r : Requirement} {fault : Fault} :
    r.fault? = some fault ↔ ¬r.Holds ∧ r.fault = fault := by
  simp [fault?]

end Requirement

mutual

def stepsRequirements : List Step → List Requirement
  | [] => []
  | step :: rest => stepRequirements step ++ stepsRequirements rest
termination_by structural steps => steps

def stepRequirements : Step → List Requirement
  | ⟨probe, captured, _, _, transform⟩ =>
    probe.parts.map .part ++ transformRequirements transform captured
termination_by structural s => s

def transformRequirements : Option (List Step) → (captured : Bool) → List Requirement
  | none, _ => []
  | some steps, captured => .captured captured :: .nonempty steps :: stepsRequirements steps
termination_by structural steps => steps

end

/-- All that a rule made of `steps` has to meet, in the order in which it is checked. -/
def requirements (steps : List Step) : List Requirement :=
  .nonempty steps :: stepsRequirements steps

/-- `r` is the first of the requirements that is not met. -/
def IsFirstUnmet (all : List Requirement) (r : Requirement) : Prop :=
  ¬r.Holds ∧ ∃ met later, all = met ++ r :: later ∧ ∀ other ∈ met, other.Holds

theorem findSome?_singleton (r : Requirement) : [r].findSome? Requirement.fault? = r.fault? := by
  rw [List.findSome?_cons]
  cases r.fault? <;> rfl

theorem isEmpty_or_any_isEmpty (ls : List (List Char)) :
    (ls.isEmpty || ls.any List.isEmpty) = true ↔ ¬(ls ≠ [] ∧ ∀ l ∈ ls, l ≠ []) := by
  rw [not_and_or, not_not, not_forall]
  simp

namespace Probe

/-- The fault of a composed probe is that of its first part that has one. -/
theorem fault?_eq_findSome? (p : Probe) :
    p.fault? = (p.parts.map Requirement.part).findSome? Requirement.fault? := by
  induction p with
  | literal l => cases l <;> rfl
  | oneOf ls | oneOfAtStart ls =>
    refine Eq.trans ?_ (findSome?_singleton _).symm
    exact (if_congr (isEmpty_or_any_isEmpty ls) rfl rfl).trans (ite_not ..)
  | bracket opening closing =>
    refine Eq.trans ?_ (findSome?_singleton _).symm
    exact (ite_not ..).symm
  | run | spacedWord | backward | lineStart => rfl
  | shifted inner delta ih => exact ih
  | orElse first second ihfirst ihsecond =>
    rw [parts, List.map_append, List.findSome?_append, ← ihfirst, ← ihsecond, fault?]

theorem wellFormed_iff (p : Probe) :
    p.WellFormed ↔ ∀ q ∈ p.parts, (Requirement.part q).Holds := by
  induction p with
  | literal l =>
    simp only [parts, List.mem_singleton, forall_eq, Requirement.Holds]
    exact ⟨fun h => by cases h; assumption, .literal⟩
  | oneOf ls =>
    simp only [parts, List.mem_singleton, forall_eq, Requirement.Holds]
    exact ⟨fun h => by cases h; exact ⟨‹_›, ‹_›⟩, fun h => .oneOf h.1 h.2⟩
  | oneOfAtStart ls =>
    simp only [parts, List.mem_singleton, forall_eq, Requirement.Holds]
    exact ⟨fun h => by cases h; exact ⟨‹_›, ‹_›⟩, fun h => .oneOfAtStart h.1 h.2⟩
  | bracket opening closing =>
    simp only [parts, List.mem_singleton, forall_eq, Requirement.Holds]
    exact ⟨fun h => by cases h; assumption, .bracket⟩
  | run kind mayBeEmpty => simp [parts, Requirement.Holds, WellFormed.run]
  | spacedWord => simp [parts, Requirement.Holds, WellFormed.spacedWord]
  | backward count => simp [parts, Requirement.Holds, WellFormed.backward]
  | lineStart => simp [parts, Requirement.Holds, WellFormed.lineStart]
  | shifted inner delta ih =>
    rw [parts, ← ih]
    exact ⟨fun h => by cases h; assumption, .shifted delta⟩
  | orElse first second ihfirst ihsecond =>
    rw [parts, List.forall_mem_append, ← ihfirst, ← ihsecond]
    exact ⟨fun h => by cases h; exact ⟨‹_›, ‹_›⟩, fun h => .orElse h.1 h.2⟩

theorem fault?_eq_none_iff (p : Probe) : p.fault? = none ↔ p.WellFormed := by
  rw [fault?_eq_findSome?, wellFormed_iff, List.findSome?_eq_none_iff, List.forall_mem_map]
  simp only [Requirement.fault?_eq_none_iff]

end Probe

mutual

theorem stepsFault?_eq_findSome? : (steps : List Step) →
    stepsFault? steps = (stepsRequirements steps).findSome? Requirement.fault?
  | [] => rfl
  | step :: rest => by
    rw [stepsFault?, stepsRequirements, List.findSome?_append, stepFault?_eq_findSome? step,
      stepsFault?_eq_findSome? rest]
termination_by structural steps => steps

theorem stepFault?_eq_findSome? : (s : Step) →
    stepFault? s = (stepRequirements s).findSome? Requirement.fault?
  | ⟨probe, captured, _, _, transform⟩ => by
    rw [stepFault?, stepRequirements, List.findSome?_append, probe.fault?_eq_findSome?,
      transformFault?_eq_findSome? transform captured]
termination_by structural s => s

theorem transformFault?_eq_findSome? : (transform : Option (List Step)) → (captured : Bool) →
    transformFault? transform captured =
      (transformRequirements transform captured).findSome? Requirement.fault?
  | none, _ => rfl
  | some steps, captured => by
    rw [transformFault?, transformRequirements, List.findSome?_cons, List.findSome?_cons,
      stepsFault?_eq_findSome? steps]
    cases captured with
    | false => rfl
    | true => cases steps <;> rfl
termination_by structural transform => transform

end

theorem ruleFault?_eq_findSome? (steps : List Step) :
    ruleFault? steps = (requirements steps).findSome? Requirement.fault? := by
  rw [ruleFault?, requirements, List.findSome?_cons, stepsFault?_eq_findSome?]
  cases steps <;> rfl

theorem ruleFault?_eq_some_iff {steps : List Step} {fault : Fault} :
    ruleFault? steps = some fault ↔
      ∃ r, IsFirstUnmet (requirements steps) r ∧ r.fault = fault := by
  rw [ruleFault?_eq_findSome?, List.findSome?_eq_some_iff]
  simp only [Requirement.fault?_eq_none_iff, Requirement.fault?_eq_some_iff]
  constructor
  · rintro ⟨met, r, later, hall, ⟨hunmet, hfault⟩, hmet⟩
    exact ⟨r, ⟨hunmet, met, later, hall, hmet⟩, hfault⟩
  · rintro ⟨r, ⟨hunmet, met, later, hall, hmet⟩, hfault⟩
    exact ⟨met, r, later, hall, ⟨hunmet, hfault⟩, hmet⟩

theorem ruleFault?_eq_none_iff_forall {steps : List Step} :
    ruleFault? steps = none ↔ steps ≠ [] ∧ ∀ s ∈ steps, s.probe.WellFormed ∧
      ∀ sub, s.transform = some sub → s.captured = true ∧ ruleFault? sub = none := by
  rw [ruleFault?_eq_none_iff, stepsFault?_eq_none_iff]
  refine and_congr_right fun _ => forall₂_congr fun s _ => ?_
  rw [s.probe.fault?_eq_none_iff]
  refine and_congr_right fun _ => ?_
  cases s.transform with
  | none => simp [transformFault?]
  | some sub => simp [transformFault?_eq_none_iff]

theorem wellFormed_of_ruleFault? (steps : List Step) (h : ruleFault? steps = none) :
    WellFormed steps := by
  obtain ⟨hne, hsteps⟩ := ruleFault?_eq_none_iff_forall.mp h
  refine ⟨hne, fun s hs => (hsteps s hs).1, ?_, ?_⟩
  · intro s hs htransform
    obtain ⟨sub, hsub⟩ := Option.ne_none_iff_exists'.mp htransform
    exact ((hsteps s hs).2 sub hsub).1
  · intro s hs sub hsub
    exact wellFormed_of_ruleFault? sub ((hsteps s hs).2 sub hsub).2
termination_by sizeOf steps
decreasing_by
  obtain ⟨_, _, _, _, _⟩ := s
  subst hsub
  have hstep := List.sizeOf_lt_of_mem hs
  simp at hstep ⊢
  omega

theorem WellFormed.ruleFault?_eq_none {steps : List Step} (h : WellFormed steps) :
    ruleFault? steps = none := by
  induction h with
  | intro hne hprobes hcaptured _ ih =>
    refine ruleFault?_eq_none_iff_forall.mpr ⟨hne, fun s hs => ⟨hprobes s hs, ?_⟩⟩
    intro sub hsub
    exact ⟨hcaptured s hs (by simp [hsub]), ih s hs sub hsub⟩

/-- Every part of a rule without fault has something to look for, however deep it lies. -/
theorem HasPart.holds {steps : List Step} {p : Probe} (h : HasPart steps p)
    (hrule : ruleFault? steps = none) : (Requirement.part p).Holds := by
  induction h with
  | here hs hp =>
    obtain ⟨-, hsteps⟩ := ruleFault?_eq_none_iff_forall.mp hrule
    exact (Probe.wellFormed_iff _).mp (hsteps _ hs).1 _ hp
  | inside hs hsub _ ih =>
    obtain ⟨-, hsteps⟩ := ruleFault?_eq_none_iff_forall.mp hrule
    exact ih ((hsteps _ hs).2 _ hsub).2

/-- A probe for given characters, at least one of them, hits no empty window. -/
theorem Probe.start_lt_stop_of_hit {p : Probe} (hverbatim : p.isVerbatim = true)
    (hp : (Requirement.part p).Holds) {text : Array Char} {w hit : Window}
    (h : p.scan text w = .hit hit) : hit.start < hit.stop := by
  cases p with
  | literal l =>
    rw [scan_literal] at h
    obtain ⟨place, l', -, hfirst, rfl⟩ := (firstOf_eq_hit_and_miss_iff.1 _).mp h
    obtain rfl := List.mem_singleton.mp hfirst.mem
    exact Nat.lt_add_of_pos_right (List.length_pos_iff.mpr hp)
  | oneOf ls =>
    obtain ⟨place, l, -, hfirst, rfl⟩ := (firstOf_eq_hit_and_miss_iff.1 _).mp h
    exact Nat.lt_add_of_pos_right (List.length_pos_iff.mpr (hp.2 l hfirst.mem))
  | oneOfAtStart ls =>
    obtain ⟨l, hfirst, rfl⟩ := (scan_oneOfAtStart_eq_hit_and_miss_iff.1 _).mp h
    exact Nat.lt_add_of_pos_right (List.length_pos_iff.mpr (hp.2 l hfirst.mem))
  | bracket opening closing =>
    rw [scan_bracket] at h
    cases hgroup : groupEnd? text opening closing w.start w.stop with
    | none => simp [hgroup] at h
    | some e =>
      rw [hgroup] at h
      obtain rfl := Outcome.hit.inj h
      exact start_lt_of_groupEnd? hgroup
  | run | spacedWord | backward | lineStart | shifted | orElse =>
    exact absurd hverbatim Bool.false_ne_true

namespace Rule

theorem ofSteps_eq_ok_iff {steps : List Step} {r : Rule} :
    ofSteps steps = .ok r ↔ r.steps = steps := by
  constructor
  · intro h
    cases hfault : ruleFault? steps with
    | none =>
      rw [ofSteps_steps ⟨steps, hfault⟩] at h
      rw [← Except.ok.inj h]
    | some fault =>
      rw [ofSteps_of_fault hfault] at h
      exact nomatch h
  · rintro rfl
    exact ofSteps_steps r

theorem ofSteps_eq_error_iff {steps : List Step} {fault : Fault} :
    ofSteps steps = .error fault ↔ ruleFault? steps = some fault := by
  refine ⟨fun h => ?_, ofSteps_of_fault⟩
  cases hfault : ruleFault? steps with
  | none =>
    rw [ofSteps_steps ⟨steps, hfault⟩] at h
    exact nomatch h
  | some fault' =>
    rw [ofSteps_of_fault hfault] at h
    rw [Except.error.inj h]

end Rule

/-- A list of steps makes a rule just where it is well formed at every depth, and otherwise it is
refused with the fault of the first requirement that it does not meet. So no literal and no bracket
group in a rule ever matches an empty text. -/
theorem rules_are_the_well_formed_lists (steps : List Step) :
    ((∃ r, Rule.ofSteps steps = .ok r) ↔ WellFormed steps) ∧
    (∀ fault, Rule.ofSteps steps = .error fault ↔
      ∃ r, IsFirstUnmet (requirements steps) r ∧ r.fault = fault) ∧
    (∀ r, Rule.ofSteps steps = .ok r → r.steps = steps ∧
      ∀ p, HasPart r.steps p → p.isVerbatim = true → ∀ (text : Array Char) (w hit : Window),
        p.scan text w = .hit hit → hit.start < hit.stop) := by
  refine ⟨⟨?_, ?_⟩, ?_, ?_⟩
  · rintro ⟨r, hr⟩
    obtain rfl := Rule.ofSteps_eq_ok_iff.mp hr
    exact wellFormed_of_ruleFault? r.steps r.faultless
  · intro h
    exact ⟨⟨steps, h.ruleFault?_eq_none⟩, Rule.ofSteps_steps ⟨steps, h.ruleFault?_eq_none⟩⟩
  · intro fault
    rw [Rule.ofSteps_eq_error_iff, ruleFault?_eq_some_iff]
  · intro r hr
    refine ⟨Rule.ofSteps_eq_ok_iff.mp hr, ?_⟩
    intro p hpart hverbatim text w hit hscan
    exact Probe.start_lt_stop_of_hit hverbatim (hpart.holds r.faultless) hscan

def listEntries : List Step :=
  [Step.word.repeating.saving, (Step.bracket '(' ')').saving.rescanning
    [Step.orElse (.literal ",") (.shifted (.literal ";") 1), Step.word.saving]]

/-- A transform that captures nothing and has no steps, and an empty literal after it. -/
def faultyEntries : List Step := [Step.word.rescanning [], Step.literal ""]

theorem rules_are_the_well_formed_lists_of_entries :
    (∃ r, Rule.ofSteps listEntries = .ok r ∧ HasPart r.steps (.literal [';'])) ∧
    WellFormed listEntries ∧
    (Probe.literal [';']).scan #['a', ';', 'b'] ⟨0, 3⟩ = .hit ⟨1, 2⟩ ∧ 1 < 2 ∧
    ¬WellFormed faultyEntries ∧
    ∃ r, IsFirstUnmet (requirements faultyEntries) r ∧ r.fault = .transformWithoutCapture := by
  obtain ⟨haccepted, -, hhits⟩ := rules_are_the_well_formed_lists listEntries
  obtain ⟨hrefused, hfault, -⟩ := rules_are_the_well_formed_lists faultyEntries
  have hrule : Rule.ofSteps listEntries = .ok ⟨listEntries, rfl⟩ := rfl
  have hpart : HasPart listEntries (.literal [';']) := by
    refine .inside (List.mem_cons_of_mem _ List.mem_cons_self) rfl (.here List.mem_cons_self ?_)
    decide
  have hscan : (Probe.literal [';']).scan #['a', ';', 'b'] ⟨0, 3⟩ = .hit ⟨1, 2⟩ := rfl
  have herror : Rule.ofSteps faultyEntries = .error .transformWithoutCapture := rfl
  refine ⟨⟨_, hrule, hpart⟩, haccepted.mp ⟨_, hrule⟩, hscan, ?_, ?_, (hfault _).mp herror⟩
  · exact (hhits _ hrule).2 _ hpart rfl _ _ _ hscan
  · intro h
    obtain ⟨r, hr⟩ := hrefused.mpr h
    exact nomatch herror.symm.trans hr

end Scan
end Autocomplete
