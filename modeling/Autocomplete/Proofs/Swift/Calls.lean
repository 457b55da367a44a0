import Autocomplete.Proofs.Scan.Evidence
import Autocomplete.Proofs.Swift.Bodies

/-!
# Functions with empty bodies

A source made of functions with empty bodies gives back a call of each function that has parameters.
The rule for functions reads each of them to the end of its parameter list, so it never looks for a
keyword inside a name or a list. The rules for types may well find their keywords there, but
whatever they find goes on with a body, and no member fits into an empty one.
-/

namespace Autocomplete
namespace Swift

open Scan Text

/-- A function with an empty body. -/
structure Stub where
  name : Identifier
  parameters : List Char
  balanced : Balanced '(' ')' parameters := by decide +kernel
  opening_not_mem : '{' ∉ parameters := by decide
  closing_not_mem : '}' ∉ parameters := by decide

namespace Stub

def line (f : Stub) : List Char :=
  "func ".toList ++ (f.name.chars ++ '(' :: (f.parameters ++ ')' :: " {}".toList))

def source (fs : List Stub) (newlineAtEnd : Bool) : List Char :=
  unlines (fs.map line) ++ ending newlineAtEnd

/-- The call of a function, unless its parameter list is blank. -/
def call? (f : Stub) : Option Suggestion :=
  if f.parameters.all isBlank then none
  else some ⟨f.name.text,
    dropOuter (Snippet.call (String.ofList f.parameters) (isFunctionName f.name.text))⟩

def list (f : Stub) : List Char := '(' :: (f.parameters ++ [')'])

/-- What is found of a function: its name and its parameter list. -/
def pair (f : Stub) : String × String := (f.name.text, String.ofList f.list)

end Stub

/-! ### Functions -/

/-- A function is read to the end of its parameter list, and the search goes on at its body. -/
theorem finds_stub (f : Stub) {gap left : List Char} {found : List Match} (hgap : 'f' ∉ gap)
    (h : Finds functions.steps (" {}".toList ++ left) found) :
    Finds functions.steps (gap ++ (f.line ++ left)) (Match.ofPair f.pair :: found) := by
  have hline : f.line ++ left = "func".toList ++ ([' '] ++ (f.name.chars ++
      ([] ++ (f.list ++ (" {}".toList ++ left))))) := by
    unfold Stub.line Stub.list
    simp
  have hlist := Reads.saving (by simp) (Probe.hits_bracket f.balanced (by decide))
    (Reads.nil (" {}".toList ++ left))
  have hblank := Reads.spaces List.all_nil rfl (by simp) hlist
  have hname := Reads.word f.name rfl hblank
  have hspaces := Reads.spaces (by decide : [' '].all isScanSpace = true)
    (f.name.head_append (fun _ => isScanSpace_of_isNameChar) _) (f.name.append_ne_nil _) hname
  rw [hline]
  exact finds_repeating_iff.mpr (Finds.plain (Probe.hits_of_not_mem "func".toList rfl hgap _)
    (by decide) hspaces (finds_repeating_iff.mp h))

theorem finds_stubs (fs : List Stub) {left : List Char} (hleft : 'f' ∉ left) :
    Finds functions.steps (" {}".toList ++ ((fs.flatMap fun f => '\n' :: f.line) ++ left))
      ((fs.map Stub.pair).map Match.ofPair) := by
  induction fs with
  | nil => exact Finds.end_of_not_mem (c := 'f') rfl rfl (by simpa using hleft)
  | cons f fs ih =>
    have hgap : 'f' ∉ " {}\n".toList := by decide
    simpa using finds_stub f hgap ih

theorem finds_source_functions (fs : List Stub) (newlineAtEnd : Bool) :
    Finds functions.steps (Stub.source fs newlineAtEnd)
      ((fs.map Stub.pair).map Match.ofPair) := by
  have hending := not_mem_ending (by decide : 'f' ≠ '\n') newlineAtEnd
  rw [Stub.source]
  cases fs with
  | nil => exact Finds.end_of_not_mem rfl rfl hending
  | cons f fs =>
    have hfirst := finds_stub f (List.not_mem_nil (a := 'f')) (finds_stubs fs hending)
    rw [List.map_cons, unlines_cons, List.flatMap_map]
    simpa using hfirst

/-! ### Types without members -/

/-- Every opening brace of a text is closed at once. -/
def EmptyBodies (text : List Char) : Prop :=
  ∀ left, '{' :: left <:+ text → left.head? = some '}'

section EmptyBodies

variable {piece left : List Char}

theorem emptyBodies_of_not_mem (h : '{' ∉ piece) : EmptyBodies piece :=
  fun _ hsuffix => absurd (hsuffix.subset List.mem_cons_self) h

theorem emptyBodies_append (h : '{' ∉ piece) (hleft : EmptyBodies left) :
    EmptyBodies (piece ++ left) := by
  induction piece with
  | nil => exact hleft
  | cons c piece ih =>
    rw [List.mem_cons, not_or] at h
    obtain ⟨hc, hpiece⟩ := h
    intro rest hsuffix
    rcases List.suffix_cons_iff.mp hsuffix with heq | hsuffix
    · exact absurd (List.cons.inj heq).1 hc
    · exact ih hpiece rest hsuffix

theorem emptyBodies_pair (hleft : EmptyBodies left) : EmptyBodies ('{' :: '}' :: left) := by
  intro rest hsuffix
  rcases List.suffix_cons_iff.mp hsuffix with heq | hsuffix
  · rw [(List.cons.inj heq).2, List.head?_cons]
  · have hclosing : '{' ∉ ['}'] := by decide
    exact emptyBodies_append hclosing hleft rest hsuffix

theorem emptyBodies_stub (f : Stub) (hleft : EmptyBodies left) :
    EmptyBodies (f.line ++ left) := by
  have hline : f.line ++ left = ("func ".toList ++ (f.name.chars ++ '(' :: (f.parameters ++
      ") ".toList))) ++ '{' :: '}' :: left := by
    unfold Stub.line
    simp
  have hname : '{' ∉ f.name.chars := f.name.not_mem (by decide)
  rw [hline]
  apply emptyBodies_append _ (emptyBodies_pair hleft)
  simp [hname, f.opening_not_mem]

theorem emptyBodies_source (fs : List Stub) (newlineAtEnd : Bool) :
    EmptyBodies (Stub.source fs newlineAtEnd) := by
  have hending : EmptyBodies (ending newlineAtEnd) :=
    emptyBodies_of_not_mem (not_mem_ending (by decide) newlineAtEnd)
  have hlater : ∀ fs : List Stub, EmptyBodies
      ((fs.flatMap fun f => '\n' :: f.line) ++ ending newlineAtEnd) := by
    intro fs
    induction fs with
    | nil => exact hending
    | cons f fs ih =>
      have hnewline : '{' ∉ ['\n'] := by decide
      simpa using emptyBodies_append hnewline (emptyBodies_stub f ih)
  rw [Stub.source]
  cases fs with
  | nil => exact hending
  | cons f fs =>
    rw [List.map_cons, unlines_cons, List.flatMap_map]
    simpa using emptyBodies_stub f (hlater fs)

variable {text : Array Char} {pos stop : Nat} {found : Window}

/-- A body that is found in such a text is empty. -/
theorem eq_of_hit_body (h : EmptyBodies text.toList)
    (hscan : (Probe.bracket '{' '}').scan text ⟨pos, stop⟩ = .hit found) :
    found = ⟨pos, pos + 2⟩ ∧ found.slice text = #['{', '}'] := by
  rw [Probe.scan] at hscan
  dsimp only at hscan
  split at hscan
  · rename_i hopen
    simp only [Bool.and_eq_true, decide_eq_true_eq] at hopen
    obtain ⟨hlt, hbrace⟩ := hopen
    obtain ⟨left, hleft⟩ : ∃ left, text.toList.drop pos = '{' :: '}' :: left := by
      have hdrop := List.drop_suffix pos text.toList
      rw [← Array.getElem?_toList, ← List.head?_drop] at hbrace
      obtain ⟨rest, hrest⟩ := List.head?_eq_some_iff.mp hbrace
      obtain ⟨left, rfl⟩ := List.head?_eq_some_iff.mp (h rest (hrest ▸ hdrop))
      exact ⟨left, hrest⟩
    have hclosing : text[pos + 1]? = some '}' := by
      rw [← Array.getElem?_toList, ← List.getElem?_drop, hleft]
      rfl
    have hend : found = ⟨pos, pos + 2⟩ := by
      cases hcount : stop - (pos + 1) with
      | zero => simp [hcount, closingEnd?] at hscan
      | succ count => simpa [hcount, closingEnd?, hclosing, eq_comm] using hscan
    refine ⟨hend, ?_⟩
    apply Array.toList_inj.mp
    rw [hend, Window.slice, Array.toList_extract, List.extract_eq_take_drop, hleft]
    simp
  · exact Outcome.noConfusion hscan

theorem next_of_links_body (h : EmptyBodies text.toList) {made : List Capture} {next : Window}
    (hlink : (Step.bracket '{' '}').entering.Links text stop pos made next) :
    next = ⟨pos, pos + 2⟩ := by
  cases hlink with
  | hit scanned => exact (eq_of_hit_body h scanned).1
  | anchor scanned => exact absurd scanned (Probe.scan_ne_anchor rfl text _ _)

/-- There is no initializer in an empty body. -/
theorem findAll_classInitializers {text : String} (h : EmptyBodies text.toList) :
    classInitializers.findAll text = [] := by
  rw [List.eq_nil_iff_forall_not_mem]
  intro m hm
  obtain ⟨start, -, -, hchain⟩ := chain_of_mem_search hm
  obtain ⟨windows, positions, made, -, hlinks, -⟩ := hchain.exists_numbering
  obtain ⟨-, -, -, hbody⟩ := hlinks 5 (by decide)
  obtain ⟨hstart, -, -, hmember⟩ := hlinks 6 (by decide)
  have hwindow : windows 6 = ⟨positions 5, positions 5 + 2⟩ := next_of_links_body h hbody
  have hlength : positions 6 + 5 ≤ (windows 6).stop := length_le_of_links_literal hmember
  rw [hwindow] at hstart hlength
  dsimp only at hstart hlength
  omega

theorem made_of_links_body (h : EmptyBodies text.toList) {made : List Capture} {next : Window}
    (hlink : ((Step.bracket '{' '}').saving.rescanning fieldSteps).Links text stop pos made
      next) : made = [.inner []] := by
  cases hlink with
  | @hit found scanned =>
    have hcaptures : ((Step.bracket '{' '}').saving.rescanning fieldSteps).capturesOf text
        found = [.inner (searchAll fieldSteps (found.slice text))] := rfl
    rw [hcaptures, (eq_of_hit_body h scanned).2]
    rfl
  | anchor scanned => exact absurd scanned (Probe.scan_ne_anchor rfl text _ _)

theorem inner?_of_structure (h : EmptyBodies text.toList) {m : Match}
    (hm : m ∈ searchAll structures.steps text) :
    ∀ c ∈ m, ∀ found, c.inner? = some found → found = [] := by
  obtain ⟨start, -, -, hchain⟩ := chain_of_mem_search hm
  obtain ⟨windows, positions, made, -, hlinks, rfl⟩ := hchain.exists_numbering
  intro c hc found hfound
  obtain ⟨i, hi, hc⟩ := List.mem_flatMap.mp hc
  have hi : i < 6 := List.mem_range.mp hi
  obtain ⟨-, -, -, hlink⟩ := hlinks i hi
  by_cases hlast : i = 5
  · subst hlast
    have hmade : made 5 = [.inner []] := made_of_links_body h hlink
    rw [hmade] at hc
    rw [List.mem_singleton.mp hc] at hfound
    exact (Option.some.inj hfound).symm
  · have htransform : ∀ i : Fin 6, i.val ≠ 5 → structures.steps[i].transform.isNone := by decide
    have hnone := Option.isNone_iff_eq_none.mp (htransform ⟨i, hi⟩ hlast)
    have htext := inner?_of_links hnone hlink c hc
    simp [htext] at hfound

theorem memberwise?_structures {text : String} (h : EmptyBodies text.toList) :
    (structures.findAll text).filterMap memberwise? = [] := by
  rw [List.filterMap_eq_nil_iff]
  intro m hm
  have hchars : EmptyBodies text.toList.toArray.toList := h
  have hinner := inner?_of_structure hchars hm
  unfold memberwise?
  split
  · rename_i name found hname hfound
    obtain ⟨c, hc, hinner?⟩ := Option.bind_eq_some_iff.mp hfound
    obtain rfl := hinner c (List.mem_of_getElem? hc) found hinner?
    rfl
  · rfl

end EmptyBodies

/-! ### Calls -/

theorem ne_empty_of_mem_arguments (firstOfFunction : Bool) (index : Nat)
    (pieces : List (List Char)) :
    ∀ argument ∈ Snippet.arguments firstOfFunction index pieces, argument ≠ "" := by
  induction pieces generalizing firstOfFunction index with
  | nil => simp [Snippet.arguments]
  | cons piece rest ih =>
    intro argument hargument
    unfold Snippet.arguments at hargument
    split at hargument
    · rcases List.mem_cons.mp hargument with rfl | hlater
      · simp [Snippet.tabStop]
      · exact ih _ _ _ hlater
    · split at hargument <;> rcases List.mem_cons.mp hargument with rfl | hlater
      · simp [Snippet.placeholder]
      · exact ih _ _ _ hlater
      · simp [Snippet.labeled]
      · exact ih _ _ _ hlater

/-- Only a blank parameter list makes a call without arguments. -/
theorem call_eq_iff (parameters : String) (ofFunction : Bool) :
    Snippet.call parameters ofFunction = "()" ↔ trim parameters.toList = [] := by
  refine ⟨fun h => ?_, fun h => Snippet.call_of_blank h ofFunction⟩
  by_contra hblank
  rw [Snippet.call, if_neg hblank] at h
  have hinside : ", ".intercalate
      (Snippet.arguments ofFunction 1 (parameters.toList.splitOn ',')) = "" := by
    rw [← String.toList_inj] at h ⊢
    simpa using h
  have hsome : Snippet.arguments ofFunction 1 (parameters.toList.splitOn ',') ≠ [] := by
    rw [← List.length_pos_iff, Snippet.length_arguments, List.length_pos_iff]
    exact List.splitOn_ne_nil ',' _
  have hne := ne_empty_of_mem_arguments ofFunction 1 (parameters.toList.splitOn ',')
  obtain ⟨argument, rest, harguments⟩ := List.exists_cons_of_ne_nil hsome
  rw [harguments] at hinside hne
  apply hne argument List.mem_cons_self
  cases rest with
  | nil => simpa using hinside
  | cons next rest => simp [String.intercalate_cons_cons] at hinside

theorem suggestion?_list (f : Stub) : suggestion? f.name.text (String.ofList f.list) = f.call? := by
  have houter : dropOuter (String.ofList f.list) = String.ofList f.parameters := by
    simp [dropOuter, Stub.list]
  have hblank : f.parameters.all isBlank = true ↔ trim f.parameters = [] := by
    rw [List.all_eq_true, trim_eq_nil_iff]
  rw [suggestion?, houter, Stub.call?]
  simp only [call_eq_iff, String.toList_ofList, hblank]

/-- The calls of a source of functions are those of the functions that have parameters, in the
order of the source, and no type adds one. -/
theorem functions_give_back_their_calls (fs : List Stub) (newlineAtEnd : Bool) :
    calls (String.ofList (Stub.source fs newlineAtEnd)) = fs.filterMap Stub.call? ∧
      classInitializers.findAll (String.ofList (Stub.source fs newlineAtEnd)) = [] ∧
      (structures.findAll (String.ofList (Stub.source fs newlineAtEnd))).filterMap memberwise? =
        [] := by
  have hbodies : EmptyBodies (String.ofList (Stub.source fs newlineAtEnd)).toList := by
    rw [String.toList_ofList]
    exact emptyBodies_source fs newlineAtEnd
  have hclasses := findAll_classInitializers hbodies
  have hstructures := memberwise?_structures hbodies
  refine ⟨?_, hclasses, hstructures⟩
  rw [calls, hclasses, hstructures, Rule.findAll_of_finds (finds_source_functions fs newlineAtEnd),
    List.append_nil, List.append_nil, Match.filterMap_pair?_map_ofPair, List.filterMap_map]
  simp only [Function.comp_def, Stub.pair, suggestion?_list]

/-- A function that takes another one, which takes a third one. -/
def fade : Stub where
  name := { chars := "fade".toList }
  parameters := "over time: Int, then done: ((() -> Bool)) -> Void".toList

/-- A function without parameters, named like its keyword. -/
def func : Stub where
  name := { chars := "func".toList }
  parameters := [' ']

theorem functions_give_back_their_calls_of_closures :
    String.ofList (Stub.source [fade, func] true) =
        "func fade(over time: Int, then done: ((() -> Bool)) -> Void) {}\nfunc func( ) {}\n" ∧
      calls (String.ofList (Stub.source [fade, func] true)) =
        [⟨"fade", "${1:time}$2, then: ${3:done}"⟩] := by
  obtain ⟨hcalls, -, -⟩ := functions_give_back_their_calls [fade, func] true
  refine ⟨by decide +kernel, ?_⟩
  rw [hcalls]
  decide +kernel

end Swift
end Autocomplete
