import Autocomplete.Proofs.Scan.Bounds
import Autocomplete.Proofs.Scan.Places
import Autocomplete.Proofs.Scan.Runs
import Autocomplete.Rules.React

/-!
# Assigned components

A component is assigned where a name stands just before the keyword. The rule for components looks
for the keyword, but then it reads the name at the start of the line. That is the assigned name only
where the line begins with it.
-/

namespace Autocomplete
namespace React

open Scan Text

/-- What stands between a name and the arguments of the component that is assigned to it. -/
def keyword : List Char := " = React.createClass".toList

/-- The keyword, and at least one more character after it. -/
structure IsAssignment (text : Array Char) (place : Nat) : Prop where
  occurs : occursAt text keyword place text.size = true
  more : place + keyword.length < text.size

/-- A longest path to the left of the keyword. -/
structure IsAssigned (text : Array Char) (name : Window) : Prop where
  nonempty : name.start < name.stop
  path : AllIn text isPathChar name
  whole : ∀ i, i + 1 = name.start → charAtSatisfies text isPathChar i = false
  assigned : occursAt text keyword name.stop text.size = true

/-- A longest path with which the line of an offset begins. -/
structure BeginsLine (text : Array Char) (offset : Nat) (name : Window) : Prop where
  nonempty : name.start < name.stop
  path : AllIn text isPathChar name
  whole : charAtSatisfies text isPathChar name.stop = false
  first : ∀ i, i + 1 = name.start → text[i]? = some '\n'
  line : AllIn text (· != '\n') ⟨name.start, offset⟩

def nameText (text : Array Char) (name : Window) : String := String.ofList (name.slice text).toList

/-- The path, possibly empty, with which the line of an offset begins. -/
def lineName (text : Array Char) (offset : Nat) : Window :=
  let first := lineStartBefore text offset
  ⟨first, runEnd (charAtSatisfies text isPathChar) first text.size⟩

/-- The name that the rule finds after an occurrence of the keyword. -/
def nameAt? (text : Array Char) (place : Nat) : Option Window :=
  if place + keyword.length < text.size ∧ (lineName text place).start < (lineName text place).stop
  then some (lineName text place) else none

section Lines

variable {text : Array Char} {place : Nat} {name : Window}

theorem keyword_ne_nil : keyword ≠ [] := by decide

theorem lineStartBefore_keyword (h : occursAt text keyword place text.size = true) :
    lineStartBefore text (place + keyword.length) = lineStartBefore text place := by
  apply runStart_of_run (Nat.le_add_right _ _)
  intro i hi hlt
  obtain ⟨k, rfl⟩ := Nat.exists_eq_add_of_le hi
  have hk : k < keyword.length := Nat.lt_of_add_lt_add_left hlt
  have hno : ∀ k < keyword.length, (keyword[k]? != some '\n') = true := by decide
  rw [getElem?_of_occursAt h hk]
  exact hno k hk

theorem lineStartBefore_le (text : Array Char) (offset : Nat) :
    lineStartBefore text offset ≤ offset :=
  runStart_le _ _

theorem lineName_stop_le (h : occursAt text keyword place text.size = true) :
    (lineName text place).stop ≤ place := by
  have hsize := add_length_le_of_occursAt h
  have hstart := lineStartBefore_le text place
  have hchar : text[place]? = some ' ' := getElem?_of_occursAt h (i := 0) (by decide)
  have hblank : charAtSatisfies text isPathChar place = false := by
    rw [charAtSatisfies, hchar]
    decide
  exact runEnd_le_of_not hstart hblank (by omega)

theorem charAtSatisfies_ne_newline {i : Nat} (hi : i < text.size) :
    charAtSatisfies text (· != '\n') i = (text[i]? != some '\n') := by
  rw [charAtSatisfies, Array.getElem?_eq_getElem hi, Option.any_some, Bool.eq_iff_iff]
  simp

theorem BeginsLine.eq_lineName (h : BeginsLine text place name) : name = lineName text place := by
  have hstart : lineStartBefore text name.start = name.start := by
    have hfirst := h.first
    cases hoffset : name.start with
    | zero => rfl
    | succ i =>
      have hnewline := hfirst i hoffset.symm
      rw [lineStartBefore, runStart, if_neg (by simp [hnewline])]
  have hline : lineStartBefore text place = name.start := by
    rw [← hstart]
    refine runStart_of_run h.line.1 fun i hi hlt => ?_
    have hread := h.line.2 i hi hlt
    rwa [charAtSatisfies_ne_newline (lt_size_of_charAtSatisfies hread)] at hread
  have hstop := h.path.runEnd_eq h.whole (h.path.stop_le_size h.nonempty)
  rw [lineName, hline, hstop]

theorem beginsLine_lineName (hplace : place ≤ text.size)
    (hne : (lineName text place).start < (lineName text place).stop) :
    BeginsLine text place (lineName text place) := by
  have hstart := lineStartBefore_le text place
  refine ⟨hne, allIn_runEnd (Nat.le_trans hstart hplace), charAtSatisfies_runEnd, ?_, hstart, ?_⟩
  · intro i hi
    have hnewline := not_before_runStart hi.symm
    simpa using hnewline
  · intro i hi hlt
    rw [charAtSatisfies_ne_newline (Nat.lt_of_lt_of_le hlt hplace)]
    exact of_runStart_le (p := fun i => text[i]? != some '\n') hi hlt

theorem nameAt?_eq_some_iff : nameAt? text place = some name ↔
    place + keyword.length < text.size ∧ BeginsLine text place name := by
  unfold nameAt?
  split
  · rename_i hfound
    have hplace : place ≤ text.size := by omega
    rw [Option.some.injEq]
    constructor
    · rintro rfl
      exact ⟨hfound.1, beginsLine_lineName hplace hfound.2⟩
    · rintro ⟨-, hname⟩
      exact hname.eq_lineName.symm
  · rename_i hnone
    simp only [reduceCtorEq, false_iff]
    rintro ⟨hmore, hname⟩
    have hnonempty := hname.nonempty
    rw [hname.eq_lineName] at hnonempty
    exact hnone ⟨hmore, hnonempty⟩

/-- The name that begins a line does not go on to the left. -/
theorem BeginsLine.not_path_before (h : BeginsLine text place name) {i : Nat}
    (hi : i + 1 = name.start) : charAtSatisfies text isPathChar i = false := by
  rw [charAtSatisfies, h.first i hi]
  decide

end Lines

section Search

variable {text : Array Char} {place : Nat}

theorem follow_lineStart (text : Array Char) (before : List Capture) (rest : List Step)
    {start : Nat} (hlt : start < text.size) :
    follow (Step.lineStart :: rest) text before ⟨start, text.size⟩ =
      ((follow rest text before ⟨lineStartBefore text start, text.size⟩).1,
        max (follow rest text before ⟨lineStartBefore text start, text.size⟩).2
          (lineStartBefore text start)) := by
  have hscan : Step.lineStart.probe.scan text ⟨start, text.size⟩ =
      .anchor (lineStartBefore text start) := by
    simp only [Step.lineStart, Step.plain, Probe.scan, Nat.min_eq_left (Nat.le_of_lt hlt)]
  rw [follow_cons, Step.attempts_of_not_looping rfl hlt, Step.attempt_of_anchor _ _ hscan]
  rfl

theorem follow_path (text : Array Char) {start e : Nat} (hlt : start < text.size)
    (he : runEnd (charAtSatisfies text isPathChar) start text.size = e) :
    follow [Step.path.saving] text [] ⟨start, text.size⟩ =
      (if start < e then [[Window.captured ⟨start, e⟩ text]] else [], e) := by
  have hkind : ∀ isFirst c, CharKind.path.accepts isFirst c = isPathChar c := fun _ _ => rfl
  have hstep : Step.path = Step.run .path false := rfl
  have hle : start ≤ e := he ▸ le_runEnd _ _ _
  rw [hstep]
  rcases Nat.eq_or_lt_of_le hle with rfl | hne
  · rw [follow_missing_run text [] hkind [] he, if_neg (Nat.lt_irrefl _)]
  · rw [follow_run text [] hkind [] hlt he (Nat.ne_of_gt hne), follow_nil, if_pos hne,
      List.nil_append, Nat.max_self]

/-- Where the rule has read after an occurrence of the keyword. -/
def backAt (text : Array Char) (place : Nat) : Nat :=
  if place + keyword.length < text.size then (lineName text place).stop else text.size

theorem follow_keyword (h : occursAt text keyword place text.size = true) :
    follow assignments.steps.tail text [] ⟨place + keyword.length, text.size⟩ =
      ((nameAt? text place).toList.map fun name => [name.captured text], backAt text place) := by
  have hsteps : assignments.steps.tail = [Step.lineStart, Step.path.saving] := rfl
  have hname : runEnd (charAtSatisfies text isPathChar) (lineName text place).start text.size =
      (lineName text place).stop := rfl
  have hle : (lineName text place).start ≤ (lineName text place).stop := le_runEnd _ _ _
  unfold nameAt? backAt
  rw [hsteps]
  by_cases hmore : place + keyword.length < text.size
  · have hline : lineStartBefore text (place + keyword.length) = (lineName text place).start :=
      lineStartBefore_keyword h
    have hstart : (lineName text place).start < text.size :=
      Nat.lt_of_le_of_lt (lineStartBefore_le text place) (by omega)
    rw [follow_lineStart text [] _ hmore, hline, follow_path text hstart hname, if_pos hmore,
      Nat.max_eq_left hle]
    simp only [hmore, true_and]
    split <;> rfl
  · rw [follow_cons, Step.attempts_of_isEmpty (Nat.le_of_not_lt hmore), if_neg hmore,
      if_neg fun hfound => hmore hfound.1]
    have hsize := add_length_le_of_occursAt h
    have hend : place + keyword.length = text.size := by omega
    rw [hend]
    rfl

theorem max_backAt (h : occursAt text keyword place text.size = true) :
    max (backAt text place) (place + keyword.length) = place + keyword.length := by
  have hname := lineName_stop_le h
  have hsize := add_length_le_of_occursAt h
  apply Nat.max_eq_right
  unfold backAt
  split <;> omega

/-- The places of the keyword that the rule tries, from left to right. -/
def keywordPlaces (text : Array Char) : List Nat :=
  triedPlaces (occursAt text keyword · text.size) (· + keyword.length) 0 text.size

theorem mem_keywordPlaces :
    place ∈ keywordPlaces text ↔ occursAt text keyword place text.size = true := by
  have hoverlap : ∀ d < keyword.length, 0 < d → ¬keyword.drop d <+: keyword := by decide
  exact mem_triedPlaces_of_not_overlapping keyword_ne_nil hoverlap

/-- The rule finds at each place of the keyword the name that begins its line, if there is one. -/
theorem findAll_assignments (text : String) :
    assignments.findAll text =
      ((keywordPlaces text.toList.toArray).filterMap (nameAt? text.toList.toArray)).map
        fun name => [name.captured text.toList.toArray] := by
  have hsteps : assignments.steps =
      ({ probe := .oneOf [keyword] } : Step).repeating :: assignments.steps.tail := rfl
  rw [Rule.findAll, searchAll, hsteps, search_oneOf]
  exact search_literal keyword_ne_nil (fun _ hplace => follow_keyword hplace)
    (fun _ hplace => max_backAt hplace)

/-- The rule finds the names that begin the lines of the keyword. -/
theorem mem_findAll_assignments {text : String} {m : Match} :
    m ∈ assignments.findAll text ↔ ∃ place name,
      IsAssignment text.toList.toArray place ∧ BeginsLine text.toList.toArray place name ∧
        m = [name.captured text.toList.toArray] := by
  rw [findAll_assignments, List.mem_map]
  simp only [List.mem_filterMap, mem_keywordPlaces, nameAt?_eq_some_iff]
  constructor
  · rintro ⟨name, ⟨place, hplace, hmore, hname⟩, rfl⟩
    exact ⟨place, name, ⟨hplace, hmore⟩, hname, rfl⟩
  · rintro ⟨place, name, ⟨hplace, hmore⟩, hname, rfl⟩
    exact ⟨name, ⟨place, hplace, hmore, hname⟩, rfl⟩

end Search

theorem mem_components {text n : String} :
    n ∈ components text ↔ ∃ place name, IsAssignment text.toList.toArray place ∧
      BeginsLine text.toList.toArray place name ∧ n = nameText text.toList.toArray name := by
  have hcaptured : ∀ name : Window, Match.text? [name.captured text.toList.toArray] 0 =
      some (nameText text.toList.toArray name) := fun _ => rfl
  rw [components, mem_distinct, List.mem_filterMap]
  simp only [mem_findAll_assignments]
  constructor
  · rintro ⟨m, ⟨place, name, hplace, hname, rfl⟩, hn⟩
    rw [hcaptured] at hn
    exact ⟨place, name, hplace, hname, (Option.some.inj hn).symm⟩
  · rintro ⟨place, name, hplace, hname, rfl⟩
    exact ⟨_, ⟨place, name, hplace, hname, rfl⟩, hcaptured name⟩

theorem BeginsLine.isAssigned_iff {text : Array Char} {place : Nat} {name : Window}
    (h : BeginsLine text place name) :
    IsAssigned text name ↔ occursAt text keyword name.stop text.size = true :=
  ⟨IsAssigned.assigned, fun hkeyword => ⟨h.nonempty, h.path, fun _ => h.not_path_before, hkeyword⟩⟩

/-- The components are the names with which the lines of the assignments begin. Each of them is a
path that does not go on to the left and ends before the keyword, but it is assigned only where the
keyword comes next. So each component is an assigned name if the keyword comes next wherever the
line of an assignment begins with a name. -/
theorem components_begin_lines (text : String) :
    let chars := text.toList.toArray
    (∀ n, n ∈ components text ↔ ∃ place name, IsAssignment chars place ∧
      BeginsLine chars place name ∧ n = nameText chars name) ∧
    (∀ place name, IsAssignment chars place → BeginsLine chars place name →
      (∀ i, i + 1 = name.start → charAtSatisfies chars isPathChar i = false) ∧
      name.stop ≤ place ∧
      (IsAssigned chars name ↔ occursAt chars keyword name.stop chars.size = true)) ∧
    ((∀ place name, IsAssignment chars place → BeginsLine chars place name →
        occursAt chars keyword name.stop chars.size = true) →
      ∀ n ∈ components text, ∃ name, IsAssigned chars name ∧ n = nameText chars name) := by
  intro chars
  refine ⟨fun n => mem_components, fun place name hplace hname => ?_, fun hnext n hn => ?_⟩
  · have hstop := lineName_stop_le hplace.occurs
    rw [← hname.eq_lineName] at hstop
    exact ⟨fun _ => hname.not_path_before, hstop, hname.isAssigned_iff⟩
  · obtain ⟨place, name, hplace, hname, rfl⟩ := mem_components.mp hn
    exact ⟨name, hname.isAssigned_iff.mpr (hnext place name hplace hname), rfl⟩

/-- A line that begins with the assigned name. -/
def bodySource : String := "App.Body = React.createClass({});"

theorem components_begin_lines_of_body :
    components bodySource = ["App.Body"] ∧
      ∃ name, IsAssigned bodySource.toList.toArray name ∧
        "App.Body" = nameText bodySource.toList.toArray name := by
  have hcomponents : components bodySource = ["App.Body"] := by decide +kernel
  have hplaces : ∀ i < bodySource.toList.toArray.size, occursAt bodySource.toList.toArray keyword i
      bodySource.toList.toArray.size = true → i = 8 := by decide +kernel
  obtain ⟨-, -, hassigned⟩ := components_begin_lines bodySource
  refine ⟨hcomponents, hassigned (fun place name hplace hname => ?_) _ ?_⟩
  · obtain rfl := hplaces place (lt_of_occursAt keyword_ne_nil hplace.occurs) hplace.occurs
    rw [hname.eq_lineName]
    decide +kernel
  · rw [hcomponents]
    exact List.mem_singleton.mpr rfl

/-- A line in which another word stands before the assigned name. -/
def navSource : String := "var Nav = React.createClass({});"

theorem words_before_names_are_components :
    components navSource = ["var"] ∧
      ¬∃ name, IsAssigned navSource.toList.toArray name ∧
        "var" = nameText navSource.toList.toArray name := by
  refine ⟨by decide +kernel, ?_⟩
  rintro ⟨⟨start, stop⟩, hname, htext⟩
  have hplaces : ∀ i < navSource.toList.toArray.size, occursAt navSource.toList.toArray keyword i
      navSource.toList.toArray.size = true → i = 7 := by decide +kernel
  have hother : ∀ i < 7, "var" ≠ nameText navSource.toList.toArray ⟨i, 7⟩ := by decide +kernel
  obtain rfl := hplaces stop (lt_of_occursAt keyword_ne_nil hname.assigned) hname.assigned
  exact hother start hname.nonempty htext

end React
end Autocomplete
