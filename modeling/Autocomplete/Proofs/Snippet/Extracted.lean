import Autocomplete.Proofs.Scan.Names
import Autocomplete.Proofs.Snippet.Arguments
import Autocomplete.Proofs.Swift.Bodies
import Autocomplete.Rules.ObjectiveC
import Mathlib.Data.List.Basic

/-!
# The snippets of a source

Whatever a source contains, the snippets that are made of it have well-numbered tab stops. The names
in them are identifiers, or were read off a parameter, so none of them has a mark of a tab stop.
-/

namespace Autocomplete

open Scan Snippet Text

theorem plain_identifier (i : Identifier) : Plain i.chars :=
  plain_of_all (p := isNameChar) (by decide) fun _ => i.isNameChar_of_mem

namespace Swift

theorem dropOuter_brackets (inside : String) : dropOuter ("(" ++ inside ++ ")") = inside := by
  simp [dropOuter]

theorem wellNumbered_suggestion? {name parameters : String} {s : Suggestion}
    (h : suggestion? name parameters = some s) : WellNumbered s.snippet := by
  unfold suggestion? at h
  dsimp only at h
  split at h
  · simp at h
  · rename_i hcall
    obtain rfl := Option.some.inj h
    have hblank : trim (dropOuter parameters).toList ≠ [] :=
      fun hblank => hcall (call_of_blank hblank _)
    obtain ⟨count, hcount, hnumbered⟩ := numbered_arguments (isFunctionName name) 1
      ((dropOuter parameters).toList.splitOn ',')
    have hpieces := List.length_pos_iff.mpr
      (List.splitOn_ne_nil ',' (dropOuter parameters).toList)
    rw [call, if_neg hblank, dropOuter_brackets]
    exact hnumbered.wellNumbered (by omega)

theorem plain_of_mem_fields {text : Array Char} {m : Match} {index : Nat} {found : List Match}
    (hm : m ∈ searchAll structures.steps text) (hfound : m.inner? index = some found) :
    ∀ field ∈ found.filterMap (Match.text? · 0), Plain field.toList := by
  obtain ⟨inner, hinner, matched, rfl⟩ := exists_transform_of_mem_search hm hfound
  have htransforms : structures.steps.filterMap (·.transform) = [fieldSteps] := rfl
  obtain rfl : inner = fieldSteps := by simpa [htransforms] using hinner
  intro field hfield
  obtain ⟨m', hm', hfield⟩ := List.mem_filterMap.mp hfield
  obtain ⟨i, rfl⟩ := exists_identifier_of_mem_search rfl hm' hfield
  simpa [Identifier.text] using plain_identifier i

theorem wellNumbered_memberwise? {text : Array Char} {m : Match} {s : Suggestion}
    (hm : m ∈ searchAll structures.steps text) (h : memberwise? m = some s) :
    WellNumbered s.snippet := by
  unfold memberwise? at h
  split at h
  · rename_i name found hname hfound
    dsimp only at h
    split at h
    · simp at h
    · rename_i hsome
      obtain rfl := Option.some.inj h
      exact wellNumbered_memberwise (plain_of_mem_fields hm hfound) (by simpa using hsome)
  · simp at h

theorem wellNumbered_of_mem_calls {text : String} {s : Suggestion} (h : s ∈ calls text) :
    WellNumbered s.snippet := by
  rcases List.mem_append.mp h with h | h
  · obtain ⟨pair, -, hpair⟩ := List.mem_filterMap.mp h
    exact wellNumbered_suggestion? hpair
  · obtain ⟨m, hm, hmember⟩ := List.mem_filterMap.mp h
    exact wellNumbered_memberwise? hm hmember

end Swift

namespace ObjectiveC

theorem eq_toNat_of_ofNat_eq {n : Nat} {c : Char} (h : Char.ofNat n = c) (hc : c.toNat ≠ 0) :
    n = c.toNat := by
  subst h
  by_cases hvalid : n.isValidChar
  · rw [Char.ofNat, dif_pos hvalid]
    rfl
  · rw [Char.ofNat, dif_neg hvalid] at hc
    exact absurd rfl hc

theorem plain_lowerChar {c : Char} (h : c ∉ marks) : Plain (lowerChar c) := by
  -- No counterpart in the table is a mark: they are small letters or lie beyond the marks.
  have htable : ∀ s ∈ lowercaseShifts, 0x61 ≤ s.image ∧
      (s.image + (s.source.last - s.source.first) ≤ 0x7A ∨ 0x7E ≤ s.image) := by
    decide +kernel
  have hmarks : ∀ d ∈ marks, d.toNat ≠ 0 ∧ (d.toNat < 0x61 ∨ 0x7A < d.toNat ∧ d.toNat < 0x7E) := by
    simp [marks]
  unfold lowerChar
  split
  · decide
  · split
    · rename_i n hshift
      obtain ⟨s, hs, hsource, rfl⟩ := exists_of_shift?_eq_some hshift
      intro d hd hmark
      have himage := eq_toNat_of_ofNat_eq (List.mem_singleton.mp hd).symm (hmarks d hmark).1
      simp only [CodeRun.contains, Bool.and_eq_true, decide_eq_true_eq] at hsource
      have hs := htable s hs
      have hd := (hmarks d hmark).2
      omega
    · simpa [Plain] using h

theorem plain_initializerLabel {selector : String} (h : Plain selector.toList) :
    Plain (initializerLabel selector).toList := by
  unfold initializerLabel
  split
  · rename_i first rest hrest
    have hselector := List.isPrefixOf?_eq_some_iff_append_eq.mp hrest
    have hmem : ∀ c ∈ first :: rest, c ∉ marks := by
      intro c hc
      exact h c (by simp [← hselector, hc])
    rw [String.toList_ofList]
    apply (plain_lowerChar (hmem first List.mem_cons_self)).append
    exact fun c hc => hmem c (List.mem_cons_of_mem first hc)
  · exact h

def NamesArgument (part : String × String) : Prop :=
  (∃ i : Identifier, part.1 = i.text) ∧ ∃ i : Identifier, part.2 = i.text

theorem namesArgument_of_mem_partsOf (line : String) :
    ∀ part ∈ partsOf line, NamesArgument part := by
  intro part hpart
  obtain ⟨m, hm, hpair⟩ := List.mem_filterMap.mp hpart
  exact exists_identifiers_of_pair? rfl hm hpair

theorem NamesArgument.numbered {part : String × String} (h : NamesArgument part) (index : Nat) :
    Numbered index 1 (placeholder index part.2) := by
  obtain ⟨-, i, hname⟩ := h
  have hchars : part.2.toList = i.chars := by simp [hname, Identifier.text]
  apply numbered_placeholder
  · simpa [hchars] using i.nonempty
  · simpa [hchars] using plain_identifier i

theorem NamesArgument.plain {part : String × String} (h : NamesArgument part) :
    Plain part.1.toList := by
  obtain ⟨⟨i, hselector⟩, -⟩ := h
  simpa [hselector, Identifier.text] using plain_identifier i

theorem head_laterArguments (index : Nat) (parts : List (String × String)) :
    (laterArguments index parts).toList.head?.any Char.isDigit = false := by
  cases parts <;> simp [laterArguments]

theorem numbered_laterArguments {parts : List (String × String)}
    (h : ∀ part ∈ parts, NamesArgument part) (index : Nat) :
    Numbered index parts.length (laterArguments index parts) := by
  induction parts generalizing index with
  | nil => exact numbered_empty index
  | cons part rest ih =>
    have hpart := h part List.mem_cons_self
    have hfirst := (numbered_labeled hpart.plain (hpart.numbered index)).comma_append
    have hrest := ih (fun other hother => h other (List.mem_cons_of_mem part hother)) (index + 1)
    rw [List.length_cons, Nat.add_comm]
    exact hfirst.append hrest (head_laterArguments (index + 1) rest)

/-- A first argument and the ones after it are numbered together. -/
theorem wellNumbered_append_laterArguments {shown : String} {rest : List (String × String)}
    (hshown : Numbered 1 1 shown) (hrest : ∀ part ∈ rest, NamesArgument part) :
    WellNumbered (shown ++ laterArguments 2 rest) := by
  have hlater := numbered_laterArguments hrest 2
  exact (hshown.append hlater (head_laterArguments 2 rest)).wellNumbered (by omega)

theorem wellNumbered_suggestion? {interface : Option String} {line : String} {kind : LineKind}
    {s : Suggestion} (h : suggestion? interface line kind = some s) : WellNumbered s.snippet := by
  have hparts := namesArgument_of_mem_partsOf line
  unfold suggestion? at h
  split at h
  · split at h
    · rename_i part name rest owner hread
      obtain rfl := Option.some.inj h
      rw [hread, List.forall_mem_cons] at hparts
      obtain ⟨hpart, hrest⟩ := hparts
      have hlabel := plain_initializerLabel hpart.plain
      exact wellNumbered_append_laterArguments (numbered_labeled hlabel (hpart.numbered 1)) hrest
    · simp at h
  · split at h
    · rename_i part name rest hread
      obtain rfl := Option.some.inj h
      rw [hread, List.forall_mem_cons] at hparts
      obtain ⟨hpart, hrest⟩ := hparts
      exact wellNumbered_append_laterArguments (hpart.numbered 1) hrest
    · simp at h
  · simp at h

theorem wellNumbered_of_mem_methodsBelow {s : Suggestion} {lines : List (List Char)}
    {interface : Option String} (h : s ∈ methodsBelow interface lines) :
    WellNumbered s.snippet := by
  induction lines generalizing interface with
  | nil => simp [methodsBelow] at h
  | cons line rest ih =>
    rw [methodsBelow] at h
    split at h
    · exact ih h
    · rcases List.mem_append.mp h with h | h
      · exact wellNumbered_suggestion? (by simpa using h)
      · exact ih h

end ObjectiveC

/-- The tab stops of every snippet that is made of a source are numbered from one on, whatever the
source contains. -/
theorem extracted_snippets_are_well_numbered (text : String) :
    (∀ s ∈ Swift.calls text, WellNumbered s.snippet) ∧
      ∀ s ∈ ObjectiveC.methods text, WellNumbered s.snippet :=
  ⟨fun _ => Swift.wellNumbered_of_mem_calls, fun _ => ObjectiveC.wellNumbered_of_mem_methodsBelow⟩

/-- A function with something in its list that is no parameter. -/
def unfinishedFunction : String := "func load(url: URL, $, on end: Int)"

def initializerHeader : String := "@interface A\n- (instancetype)initWithX:(int)x y:(int)z;"

theorem extracted_snippets_are_well_numbered_in_calls :
    (⟨"load", "${1:url}$2, $3, on: ${4:end}"⟩ ∈ Swift.calls unfinishedFunction ∧
      WellNumbered "${1:url}$2, $3, on: ${4:end}") ∧
    ⟨"A", "x: ${1:x}, y: ${2:z}"⟩ ∈ ObjectiveC.methods initializerHeader ∧
      WellNumbered "x: ${1:x}, y: ${2:z}" := by
  have hcall : ⟨"load", "${1:url}$2, $3, on: ${4:end}"⟩ ∈
      Swift.calls unfinishedFunction := by
    decide +kernel
  have hmethod : ⟨"A", "x: ${1:x}, y: ${2:z}"⟩ ∈
      ObjectiveC.methods initializerHeader := by
    decide +kernel
  obtain ⟨hcalls, -⟩ := extracted_snippets_are_well_numbered unfinishedFunction
  obtain ⟨-, hmethods⟩ := extracted_snippets_are_well_numbered initializerHeader
  exact ⟨⟨hcall, hcalls _ hcall⟩, hmethod, hmethods _ hmethod⟩

end Autocomplete
