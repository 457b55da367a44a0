import Autocomplete.Proofs.Scan.Keywords
import Autocomplete.Proofs.Swift.Bodies

/-!
# Declared fields

The fields of a type are found by their keywords, and a keyword inside a name or a type is as good
as the one at the front of a line. A type that ends with a keyword swallows the keyword of the next
line as a name. What is found in the lines of a body is therefore a function of all names and types
in it; it consists of the declared names just when no type is of this kind.
-/

namespace Autocomplete
namespace Swift

open Scan Text

/-- A field with the name of its type. No name is a keyword. -/
structure Field where
  isVariable : Bool
  name : Identifier
  type : Identifier
  notKeyword : name.chars ∉ ["func".toList, "var".toList, "let".toList]

namespace Field

def keyword (f : Field) : Identifier :=
  if f.isVariable then { chars := "var".toList } else { chars := "let".toList }

def line (f : Field) : List Char :=
  indented (f.keyword.chars ++ ' ' :: (f.name.chars ++ ':' :: ' ' :: f.type.chars))

end Field

/-- The lines of fields up to the brace behind them. -/
def fieldLines (fs : List Field) : List Char := between (fs.map Field.line) ++ ['}']

/-- The names that are found in the lines of fields. Where the type above has swallowed the first
keyword, this keyword is found and the name is only looked through. -/
def namesFound (keywords : List (List Char)) (mayTouch : Bool) :
    (swallowed : Bool) → List Field → List (List Char)
  | _, [] => []
  | swallowed, f :: fs =>
    (if swallowed then f.keyword.chars :: stray keywords mayTouch f.name.chars
      else [f.name.chars]) ++
    (stray keywords mayTouch f.type.chars ++
      namesFound keywords mayTouch (swallows keywords mayTouch f.type.chars) fs)

theorem fieldLines_cons (f : Field) (fs : List Field) :
    fieldLines (f :: fs) = "\n    ".toList ++ (f.keyword.chars ++ ([' '] ++
      (f.name.chars ++ ':' :: (' ' :: (f.type.chars ++ fieldLines fs))))) := by
  simp [fieldLines, between_cons, Field.line, indented]

theorem fieldLines_eq (fs : List Field) : ∃ left, fieldLines fs = '\n' :: left := by
  cases fs with
  | nil => exact ⟨['}'], rfl⟩
  | cons f fs => exact ⟨_, fieldLines_cons f fs⟩

section Reading

variable {keywords : List (List Char)} {mayTouch : Bool} {mark : Char} {left : List Char}
  {found ended : List Match}

variable (keywords mayTouch) in
theorem reads_nothing (hmark : isNameChar mark = false) (hspace : isScanSpace mark = false) :
    Reads (nameSteps keywords mayTouch).tail (mark :: left) [] (mark :: left) := by
  have hbehind : (mark :: left).head?.any isNameChar = false := hmark
  have hblank : (mark :: left).head?.any isScanSpace = false := hspace
  cases mayTouch with
  | true =>
    have hword : Reads [Step.word.saving] (mark :: left) [] (mark :: left) :=
      Reads.miss rfl (List.suffix_refl _) (List.cons_ne_nil _ _) (Probe.misses_word hbehind)
    exact Reads.spaces List.all_nil hblank (List.cons_ne_nil _ _) hword
  | false =>
    exact Reads.miss rfl (List.suffix_refl _) (List.cons_ne_nil _ _)
      (Probe.misses_run (fun _ _ => rfl) hblank)

variable (keywords mayTouch) in
theorem reads_name (i : Identifier) {blank : List Char} (hne : blank ≠ [])
    (hblank : blank.all isScanSpace = true) (hleft : left.head?.any isNameChar = false) :
    Reads (nameSteps keywords mayTouch).tail (blank ++ (i.chars ++ left)) [nameMatch i.chars]
      left := by
  have hhit : (Probe.run .space mayTouch).Hits [] blank (i.chars ++ left) :=
    Probe.hits_run (fun _ _ => rfl) (.inl hne) hblank
      (i.head_append (fun _ => isScanSpace_of_isNameChar) _)
  have hreads := Reads.plain (by simp [hne]) hhit (Reads.word i hleft (Reads.nil left))
  exact hreads

theorem finds_end (h : Apart keywords) {gap ending : List Char}
    (hgap : Silent keywords gap ending) (hending : ending.any isNameChar = false) :
    Finds (nameSteps keywords mayTouch) (gap ++ ending) [] := by
  apply Finds.end
  apply Probe.misses_oneOf
  have hsilent := h.silent hending []
  rw [← List.append_nil ending] at hgap
  exact silent_append hgap hsilent

theorem namesAhead_end (h : Apart keywords) :
    NamesAhead keywords mayTouch (fieldLines []) [] [] where
  searched _ hgap := finds_end h hgap (by decide)
  entered := by
    have hword : Reads [Step.word.saving] ['}'] [] ['}'] :=
      Reads.miss rfl (List.suffix_refl _) (by decide) (Probe.misses_word rfl)
    have hhit : (Probe.run .space mayTouch).Hits [] ['\n'] ['}'] :=
      Probe.hits_run (fun _ _ => rfl) (.inl (by decide)) (by decide) rfl
    have hend : Finds (nameSteps keywords mayTouch) ['}'] [] :=
      finds_end h (show Silent keywords [] _ from trivial) (by decide)
    exact ⟨[], _, [], Reads.plain (by decide) hhit hword, hend, rfl⟩

/-- From the colon on, a line is read alike whatever stands before. -/
theorem namesAhead_type (h : Apart keywords) (f : Field) (fs : List Field)
    (hlines : NamesAhead keywords mayTouch (fieldLines fs) found ended) :
    NamesAhead keywords mayTouch (':' :: (' ' :: (f.type.chars ++ fieldLines fs)))
      ((stray keywords mayTouch f.type.chars).map nameMatch ++
        if swallows keywords mayTouch f.type.chars then ended else found)
      ((stray keywords mayTouch f.type.chars).map nameMatch ++
        if swallows keywords mayTouch f.type.chars then ended else found) := by
  obtain ⟨left, hleft⟩ := fieldLines_eq fs
  have hsearched : ∀ gap, Silent keywords gap (':' :: (' ' :: (f.type.chars ++ fieldLines fs))) →
      Finds (nameSteps keywords mayTouch) (gap ++ ':' :: (' ' :: (f.type.chars ++ fieldLines fs)))
        ((stray keywords mayTouch f.type.chars).map nameMatch ++
          if swallows keywords mayTouch f.type.chars then ended else found) := by
    intro gap hgap
    have hmarks : Silent keywords [':', ' '] (f.type.chars ++ fieldLines fs) :=
      h.silent (by decide) _
    have hquiet : Silent keywords (gap ++ [':', ' ']) (f.type.chars ++ fieldLines fs) :=
      silent_append hgap hmarks
    rw [hleft] at hquiet hlines ⊢
    have hname := finds_name h f.type.isName (by decide) hquiet hlines
    rw [List.append_assoc] at hname
    exact hname
  exact ⟨hsearched, [], _, _, reads_nothing keywords mayTouch (by decide) (by decide),
    hsearched [] trivial, rfl⟩

/-- The name of a field is found behind its keyword. Where the line above has swallowed the keyword,
the keyword is found and the name is looked through. -/
theorem namesAhead_field (h : Apart keywords) (f : Field) (hmem : f.keyword.chars ∈ keywords)
    (fs : List Field)
    (htype : NamesAhead keywords mayTouch (':' :: (' ' :: (f.type.chars ++ fieldLines fs)))
      found found) :
    NamesAhead keywords mayTouch (fieldLines (f :: fs)) (nameMatch f.name.chars :: found)
      (nameMatch f.keyword.chars :: ((stray keywords mayTouch f.name.chars).map nameMatch ++
        found)) := by
  have hblank : [' '].any isNameChar = false := by decide
  rw [fieldLines_cons]
  constructor
  · intro gap hgap
    have hindent : Silent keywords "\n    ".toList (f.keyword.chars ++ ([' '] ++
        (f.name.chars ++ ':' :: (' ' :: (f.type.chars ++ fieldLines fs))))) :=
      h.silent (by decide) _
    have hfound : keywords.find? (·.isPrefixOf (f.keyword.chars ++ ([' '] ++ (f.name.chars ++
        ':' :: (' ' :: (f.type.chars ++ fieldLines fs)))))) = some f.keyword.chars :=
      h.find?_eq hmem (by decide) _
    have hhit : (Probe.oneOf keywords).Hits (gap ++ "\n    ".toList) f.keyword.chars ([' '] ++
        (f.name.chars ++ ':' :: (' ' :: (f.type.chars ++ fieldLines fs)))) :=
      Probe.hits_oneOf (silent_append hgap hindent) hfound f.keyword.nonempty
    have hname := reads_name keywords mayTouch f.name (by decide : [' '] ≠ []) (by decide)
      (rfl : (':' :: (' ' :: (f.type.chars ++ fieldLines fs))).head?.any isNameChar = false)
    have hfinds := Finds.plain hhit f.keyword.nonempty hname (htype.searched [] trivial)
    rw [List.append_assoc] at hfinds
    exact hfinds
  · have hkeyword := reads_name keywords mayTouch f.keyword (by decide : "\n    ".toList ≠ [])
      (by decide) (rfl : ([' '] ++ (f.name.chars ++ ':' :: (' ' :: (f.type.chars ++
        fieldLines fs)))).head?.any isNameChar = false)
    have hname := finds_name h f.name.isName (by decide) (h.silent hblank _) htype
    rw [ite_self] at hname
    exact ⟨_, _, _, hkeyword, hname, rfl⟩

theorem namesAhead_fieldLines (h : Apart keywords)
    (hmem : ∀ f : Field, f.keyword.chars ∈ keywords) (fs : List Field) :
    NamesAhead keywords mayTouch (fieldLines fs)
      ((namesFound keywords mayTouch false fs).map nameMatch)
      ((namesFound keywords mayTouch true fs).map nameMatch) := by
  induction fs with
  | nil => exact namesAhead_end h
  | cons f fs ih =>
    have hfield := namesAhead_field h f (hmem f) fs (namesAhead_type h f fs ih)
    cases hswallows : swallows keywords mayTouch f.type.chars <;>
      simpa [namesFound, hswallows] using hfield

end Reading

/-! ### Structures and classes -/

def typeSource (keyword : List Char) (name : Identifier) (fs : List Field) (newlineAtEnd : Bool) :
    List Char :=
  unlines (declaration (keyword ++ ' ' :: name.chars) (fs.map Field.line)) ++ ending newlineAtEnd

def fieldKeywords : List (List Char) := ["let".toList, "var".toList]

def memberKeywords : List (List Char) := ["func".toList, "var".toList, "let".toList]

theorem apart_fieldKeywords : Apart fieldKeywords := ⟨by decide, by decide, by decide⟩

theorem apart_memberKeywords : Apart memberKeywords := ⟨by decide, by decide, by decide⟩

theorem keyword_mem_fieldKeywords (f : Field) : f.keyword.chars ∈ fieldKeywords := by
  rw [Field.keyword]
  cases f.isVariable <;> decide

theorem keyword_mem_memberKeywords (f : Field) : f.keyword.chars ∈ memberKeywords := by
  rw [Field.keyword]
  cases f.isVariable <;> decide

theorem brace_not_mem_line (f : Field) : '{' ∉ f.line ∧ '}' ∉ f.line := by
  have hnot : ∀ i : Identifier, '{' ∉ i.chars ∧ '}' ∉ i.chars :=
    fun i => ⟨i.not_mem (by decide), i.not_mem (by decide)⟩
  simp [Field.line, indented, hnot]

section Types

variable (name : Identifier) (fs : List Field) (newlineAtEnd : Bool)

theorem typeSource_eq (keyword : List Char) :
    typeSource keyword name fs newlineAtEnd = keyword ++ ([' '] ++ (name.chars ++ ' ' :: '{' ::
      (between (fs.map Field.line) ++ '}' :: ending newlineAtEnd))) := by
  simp [typeSource, unlines_declaration]

theorem findAll_structures :
    structures.findAll (String.ofList (typeSource "struct".toList name fs newlineAtEnd)) =
      [[.text name.text, .inner ((namesFound fieldKeywords true false fs).map nameMatch)]] := by
  apply Rule.findAll_of_finds
  have hquiet : Silent fieldKeywords ['{'] (fieldLines fs) :=
    apart_fieldKeywords.silent (by decide) _
  have hfields : Finds fieldSteps ('{' :: fieldLines fs)
      ((namesFound fieldKeywords true false fs).map nameMatch) :=
    finds_repeating_iff.mpr
      ((namesAhead_fieldLines apart_fieldKeywords keyword_mem_fieldKeywords fs).searched ['{']
        hquiet)
  have hgroup : (Probe.bracket '{' '}').Hits [] ('{' :: fieldLines fs)
      (ending newlineAtEnd) :=
    Probe.hits_bracket (balanced_between (by simpa using fun f _ => brace_not_mem_line f))
      (by decide)
  have hbody := Reads.rescanning (by simp) hgroup hfields (Reads.nil (ending newlineAtEnd))
  have hheader := reads_header name (by decide : [' '].all isScanSpace = true)
    (List.suffix_append _ _) (by simp [fieldLines]) hbody
  have hkeyword : (Probe.literal "struct".toList).Hits [] "struct".toList ([' '] ++ (name.chars ++
      ' ' :: '{' :: (fieldLines fs ++ ending newlineAtEnd))) :=
    Probe.hits_literal trivial (by decide)
  have hend : Finds structures.steps (ending newlineAtEnd) [] :=
    Finds.end_of_not_mem rfl rfl (not_mem_ending (by decide : 's' ≠ '\n') newlineAtEnd)
  have hfinds := Finds.plain hkeyword (by decide) hheader (finds_repeating_iff.mp hend)
  rw [typeSource_eq]
  rw [fieldLines, List.append_assoc, List.singleton_append] at hfinds
  exact finds_repeating_iff.mpr hfinds

theorem findAll_members :
    members.findAll (String.ofList (typeSource "class".toList name fs newlineAtEnd)) =
      ((namesFound memberKeywords false false fs).map fun n => (name.text, String.ofList n)).map
        Match.ofPair := by
  apply Rule.findAll_of_finds
  have hquiet : Silent memberKeywords ['{'] (fieldLines fs) :=
    apart_memberKeywords.silent (by decide) _
  have hfields : Finds (nameSteps memberKeywords false) ('{' :: fieldLines fs)
      ((namesFound memberKeywords false false fs).map nameMatch) :=
    (namesAhead_fieldLines apart_memberKeywords keyword_mem_memberKeywords fs).searched ['{']
      hquiet
  have hinner : ∀ line ∈ fs.map Field.line, '{' ∉ line ∧ '}' ∉ line := by
    simpa using fun f _ => brace_not_mem_line f
  have hbody := reads_body name (by decide : [' '].all isScanSpace = true) hinner (by decide)
    hfields (Step.oneOf ["class", "protocol"]).repeating (ending newlineAtEnd)
  have hkeyword : (Probe.oneOf ["class".toList, "protocol".toList]).Hits [] "class".toList
      ([' '] ++ (name.chars ++ ' ' :: '{' :: (between (fs.map Field.line) ++ '}' ::
        ending newlineAtEnd))) :=
    Probe.hits_oneOf trivial rfl (by decide)
  have hend : Finds members.steps (ending newlineAtEnd) [] := by
    apply Finds.end
    apply Probe.misses_oneOf
    apply silent_of_head
    intro c hc
    obtain rfl := eq_of_mem_ending hc
    decide
  have hfinds := Finds.plain hkeyword (by decide) hbody (finds_repeating_iff.mp hend)
  have hpairs : ((namesFound memberKeywords false false fs).map nameMatch).map
      (.text name.text :: ·) =
      ((namesFound memberKeywords false false fs).map fun n => (name.text, String.ofList n)).map
        Match.ofPair := by
    simp [nameMatch, Match.ofPair, Function.comp_def]
  rw [List.append_nil] at hfinds
  rw [typeSource_eq, ← hpairs]
  exact finds_repeating_iff.mpr hfinds

end Types

end Swift
end Autocomplete
