import Autocomplete.Proofs.Store.Members
import Autocomplete.Proofs.Swift.Bodies

/-!
# Enumerations

A source made of enumerations gives back the names of their cases, whatever the names are: each
keyword that the rule goes on from is the one at the front of a line, because what the rule has read
before ends with a name, and a space follows no name but that of the enumeration. A session that
knows this source alone offers each case under the name of its enumeration.
-/

namespace Autocomplete
namespace Swift

open Scan Text

structure Enumeration where
  name : Identifier
  cases : List Identifier

namespace Enumeration

/-- The line of a case. -/
def caseLine (c : Identifier) : List Char := indented ("case ".toList ++ c.chars)

def lines (e : Enumeration) : List (List Char) :=
  declaration ("enum ".toList ++ e.name.chars) (e.cases.map caseLine)

def pairs (e : Enumeration) : List (String × String) :=
  e.cases.map fun c => (e.name.text, c.text)

/-- The cases of all enumerations of the given name, in the order of the source. -/
def casesNamed (es : List Enumeration) (name : String) : List String :=
  (es.filter (·.name.text = name)).flatMap fun e => e.cases.map Identifier.text

def source (es : List Enumeration) (newlineAtEnd : Bool) : List Char :=
  unlines (es.flatMap lines) ++ ending newlineAtEnd

theorem membersOf_pairs (es : List Enumeration) (name : String) :
    membersOf (es.flatMap pairs) name = casesNamed es name := by
  induction es with
  | nil => rfl
  | cons e es ih =>
    rw [membersOf] at ih
    by_cases h : e.name.text = name <;>
      simp [membersOf, casesNamed, pairs, h, ih, List.filter_map, Function.comp_def]

end Enumeration

theorem not_mem_caseLine (c : Identifier) :
    '{' ∉ Enumeration.caseLine c ∧ '}' ∉ Enumeration.caseLine c := by
  have hopening : '{' ∉ c.chars := c.not_mem (by decide)
  have hclosing : '}' ∉ c.chars := c.not_mem (by decide)
  simp [Enumeration.caseLine, indented, hopening, hclosing]

def caseSteps : List Step := [Step.literal "case ", Step.spaces, Step.word.saving]

theorem finds_caseLines (cs : List Identifier) {gap : List Char} (hgap : 'c' ∉ gap) :
    Finds caseSteps (gap ++ (between (cs.map Enumeration.caseLine) ++ ['}']))
      (cs.map fun c => [.text c.text]) := by
  induction cs generalizing gap with
  | nil =>
    apply Finds.end_of_not_mem (c := 'c') rfl rfl
    simpa [between_nil] using hgap
  | cons c cs ih =>
    have hlater := ih (List.not_mem_nil (a := 'c'))
    have hline : gap ++ (between ((c :: cs).map Enumeration.caseLine) ++ ['}']) =
        (gap ++ "\n    ".toList) ++ ("case ".toList ++
          (c.chars ++ (between (cs.map Enumeration.caseLine) ++ ['}']))) := by
      simp [between_cons, Enumeration.caseLine, indented]
    have hblank : 'c' ∉ gap ++ "\n    ".toList := by simpa using hgap
    have hkeyword := Probe.hits_of_not_mem "case ".toList rfl hblank
      (c.chars ++ (between (cs.map Enumeration.caseLine) ++ ['}']))
    have hword := Reads.word c (head_between (by decide) _ _)
      (Reads.nil (between (cs.map Enumeration.caseLine) ++ ['}']))
    have hspaces := Reads.spaces List.all_nil
      (c.head_append (fun _ => isScanSpace_of_isNameChar) _) (c.append_ne_nil _) hword
    rw [hline]
    exact Finds.plain hkeyword (by decide) hspaces hlater

/-- An enumeration is read to its end, and the search goes on after it. -/
theorem finds_enumeration (e : Enumeration) {gap left : List Char} {found : List Match}
    (hgap : 'e' ∉ gap) (h : Finds cases.steps left found) :
    Finds cases.steps (gap ++ (unlines e.lines ++ left)) (e.pairs.map Match.ofPair ++ found) := by
  have htext : unlines e.lines ++ left = "enum ".toList ++ ([] ++ (e.name.chars ++
      ' ' :: '{' :: (between (e.cases.map Enumeration.caseLine) ++ '}' :: left))) := by
    simp [Enumeration.lines, unlines_declaration]
  have hinner : ∀ line ∈ e.cases.map Enumeration.caseLine, '{' ∉ line ∧ '}' ∉ line := by
    simpa using fun c _ => not_mem_caseLine c
  have hcases : Finds caseSteps
      ('{' :: (between (e.cases.map Enumeration.caseLine) ++ ['}'])) _ :=
    finds_caseLines e.cases (List.not_mem_cons_of_ne_of_not_mem (by decide) List.not_mem_nil)
  have hbody := reads_body e.name List.all_nil hinner (by decide) hcases
    (Step.literal "enum ").repeating left
  have hkeyword := Probe.hits_of_not_mem "enum ".toList rfl hgap ([] ++ (e.name.chars ++
      ' ' :: '{' :: (between (e.cases.map Enumeration.caseLine) ++ '}' :: left)))
  have hfinds := Finds.plain hkeyword (by decide) hbody (finds_repeating_iff.mp h)
  have hpairs : (e.cases.map fun c => [Capture.text c.text]).map (.text e.name.text :: ·) =
      e.pairs.map Match.ofPair := by
    simp [Enumeration.pairs, Match.ofPair, Function.comp_def]
  rw [htext, ← hpairs]
  exact finds_repeating_iff.mpr hfinds

theorem finds_enumerations (es : List Enumeration) (newlineAtEnd : Bool) :
    Finds cases.steps ((es.flatMap fun e => '\n' :: unlines e.lines) ++ ending newlineAtEnd)
      ((es.flatMap Enumeration.pairs).map Match.ofPair) := by
  induction es with
  | nil => exact Finds.end_of_not_mem (c := 'e') rfl rfl (not_mem_ending (by decide) newlineAtEnd)
  | cons e es ih =>
    have hnewline : 'e' ∉ ['\n'] := by decide
    simpa using finds_enumeration e hnewline ih

theorem finds_source (es : List Enumeration) (newlineAtEnd : Bool) :
    Finds cases.steps (Enumeration.source es newlineAtEnd)
      ((es.flatMap Enumeration.pairs).map Match.ofPair) := by
  rw [Enumeration.source]
  cases es with
  | nil => exact finds_enumerations [] newlineAtEnd
  | cons e es =>
    have hfirst := finds_enumeration e (List.not_mem_nil (a := 'e'))
      (finds_enumerations es newlineAtEnd)
    have hlines : ∀ e : Enumeration, e.lines ≠ [] := fun e => List.cons_ne_nil _ _
    rw [unlines_flatMap_cons e es _ hlines]
    simpa using hfirst

theorem caseMap_source (es : List Enumeration) (newlineAtEnd : Bool) :
    caseMap (String.ofList (Enumeration.source es newlineAtEnd)) =
      .ofPairs (es.flatMap Enumeration.pairs) := by
  rw [caseMap, Rule.findAll_of_finds (finds_source es newlineAtEnd), grouped_map_ofPair]

theorem dropComments_source (es : List Enumeration) (newlineAtEnd : Bool) :
    Outline.dropComments (String.ofList (Enumeration.source es newlineAtEnd)) =
      String.ofList (Enumeration.source es false) := by
  have hkept : ∀ line ∈ es.flatMap Enumeration.lines,
      '\n' ∉ line ∧ '/' ∉ line ∧ ∃ c ∈ line, isBlank c = false := by
    intro line hline
    obtain ⟨e, -, hline⟩ := List.mem_flatMap.mp hline
    simp only [Enumeration.lines, declaration, List.mem_cons, List.mem_append, List.mem_map,
      List.not_mem_nil, or_false] at hline
    rcases hline with rfl | ⟨c, -, rfl⟩ | rfl
    · have hnewline : '\n' ∉ e.name.chars := e.name.not_mem (by decide)
      have hslash : '/' ∉ e.name.chars := e.name.not_mem (by decide)
      exact ⟨by simpa using hnewline, by simpa using hslash, '{', by simp, by decide⟩
    · have hnewline : '\n' ∉ c.chars := c.not_mem (by decide)
      have hslash : '/' ∉ c.chars := c.not_mem (by decide)
      refine ⟨?_, ?_, 'c', ?_, by decide⟩ <;>
        simp [Enumeration.caseLine, indented, hnewline, hslash]
    · exact ⟨by decide, by decide, '}', by decide, by decide⟩
  rw [Enumeration.source, Outline.dropComments_unlines hkept, Enumeration.source,
    ending, if_neg Bool.false_ne_true, List.append_nil]

theorem cases_ofSource_source (es : List Enumeration) (newlineAtEnd : Bool) {settings : Settings}
    (hsmall : (Outline.dropComments (String.ofList (Enumeration.source es newlineAtEnd))).length <
      settings.largeDocument) :
    (Findings.ofSource settings (String.ofList (Enumeration.source es newlineAtEnd)) .swift).cases =
      some (.ofPairs (es.flatMap Enumeration.pairs)) := by
  have hlarge : Findings.isLarge settings
      (Outline.dropComments (String.ofList (Enumeration.source es newlineAtEnd))) = false := by
    rw [Findings.isLarge, decide_eq_false_iff_not]
    omega
  rw [Findings.ofSource, Findings.ofSwift, hlarge, if_neg Bool.false_ne_true, dropComments_source,
    caseMap_source]

/-- The map of the cases of a source of enumerations has the cases of each name, and what a session
offers that knows this source alone is that map, owner by owner. -/
theorem enumerations_give_back_their_cases (es : List Enumeration) (newlineAtEnd : Bool) :
    (∀ name, (caseMap (String.ofList (Enumeration.source es newlineAtEnd)))[name]? =
      if Enumeration.casesNamed es name = [] then none
      else some (Enumeration.casesNamed es name)) ∧
    ∀ (s : Session) (id : Nat), (∀ other, other ∈ s.store → other = id) →
      (Outline.dropComments (String.ofList (Enumeration.source es newlineAtEnd))).length <
        s.settings.largeDocument →
      ∃ owners : List String, owners.Pairwise (· < ·) ∧
        (∀ name, name ∈ owners ↔ Enumeration.casesNamed es name ≠ []) ∧
        (s.analyze (.ofString id (String.ofList (Enumeration.source es newlineAtEnd)))
            .swift).enumerationItems =
          owners.flatMap fun owner => (Enumeration.casesNamed es owner).map fun case =>
            ⟨owner ++ "." ++ case, case⟩ := by
  have hmembers : membersOf (es.flatMap Enumeration.pairs) = Enumeration.casesNamed es :=
    funext (Enumeration.membersOf_pairs es)
  constructor
  · intro name
    rw [caseMap_source, MemberMap.getElem?_ofPairs, hmembers]
  · intro s id honly hsmall
    refine ⟨(MemberMap.ofPairs (es.flatMap Enumeration.pairs)).keys, MemberMap.pairwise_keys _,
      fun name => ?_, ?_⟩
    · rw [MemberMap.mem_keys_ofPairs, hmembers]
    · rw [Session.enumerationItems_analyze_of_only .swift honly, Document.text_ofString,
        Findings.enumerationItems_of_pairs (cases_ofSource_source es newlineAtEnd hsmall), hmembers]

/-- Keywords as names. -/
theorem enumeration_named_like_its_keyword :
    ((Session.new {}).analyze (.ofString 1 "enum enum \x7b\n    case case\n\x7d")
      .swift).enumerationItems = [⟨"enum.case", "case"⟩] := by
  let e : Enumeration :=
    ⟨{ chars := "enum".toList }, [{ chars := "case".toList }]⟩
  have htext : String.ofList (Enumeration.source [e] false) =
      "enum enum \x7b\n    case case\n\x7d" := rfl
  have hsmall : (Outline.dropComments (String.ofList (Enumeration.source [e] false))).length <
      200000 := by
    rw [dropComments_source, String.length_ofList]
    decide
  have hname : e.name.text = "enum" := rfl
  have hnamed : ∀ name, Enumeration.casesNamed [e] name ≠ [] ↔ name = "enum" := by
    intro name
    by_cases h : "enum" = name
    · subst h
      exact iff_of_true (by decide) rfl
    · simp [Enumeration.casesNamed, hname, h, Ne.symm h]
  obtain ⟨-, hanalyzed⟩ := enumerations_give_back_their_cases [e] false
  obtain ⟨owners, hsorted, howners, hitems⟩ :=
    hanalyzed (Session.new {}) 1 (by simp [Session.new]) hsmall
  have hnodup : owners.Nodup := by
    apply hsorted.imp
    rintro owner _ hlt rfl
    exact String.lt_irrefl owner hlt
  have hperm : owners.Perm ["enum"] := by
    rw [List.perm_ext_iff_of_nodup hnodup (List.nodup_singleton _)]
    simp [howners, hnamed]
  rw [htext, List.perm_singleton.mp hperm] at hitems
  exact hitems

end Swift
end Autocomplete
