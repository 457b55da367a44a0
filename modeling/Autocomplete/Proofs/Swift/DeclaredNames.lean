import Autocomplete.Proofs.Scan.Evidence
import Autocomplete.Proofs.Store.Members
import Autocomplete.Proofs.Swift.Fields
import Mathlib.Data.List.Basic

/-!
# When the declared names are found

At least one name is found for every field, so the names that are found are the declared ones just
when no type has another name in it and none swallows the keyword of the next line. For a structure
this is a condition on the keywords anywhere in the types, for a class on those at their ends.
-/

namespace Autocomplete
namespace Swift

open Scan Text

/-- The names of fields as they are declared. -/
def declaredNames (fs : List Field) : List (List Char) := fs.map (·.name.chars)

section Names

variable {keywords : List (List Char)} {mayTouch swallowed : Bool}

theorem length_le_namesFound (fs : List Field) :
    fs.length ≤ (namesFound keywords mayTouch swallowed fs).length := by
  induction fs generalizing swallowed with
  | nil => exact Nat.le_refl 0
  | cons f fs ih =>
    have hlater : fs.length ≤ (namesFound keywords mayTouch
        (swallows keywords mayTouch f.type.chars) fs).length := ih
    rw [namesFound, List.length_append, List.length_append, List.length_cons]
    cases swallowed <;> simp <;> omega

theorem namesFound_eq_nil_iff {fs : List Field} :
    namesFound keywords mayTouch swallowed fs = [] ↔ fs = [] := by
  constructor
  · intro hnil
    have hle : fs.length ≤ (namesFound keywords mayTouch swallowed fs).length :=
      length_le_namesFound fs
    rw [hnil] at hle
    exact List.length_eq_zero_iff.mp (Nat.le_zero.mp hle)
  · rintro rfl
    rfl

theorem keyword_ne_name (f g : Field) : f.keyword.chars ≠ g.name.chars := by
  intro heq
  apply g.notKeyword
  rw [← heq]
  exact keyword_mem_memberKeywords f

/-- Where more than the declared names is found, a type has led the search astray. -/
theorem namesFound_eq_iff (fs : List Field) :
    namesFound keywords mayTouch false fs = declaredNames fs ↔
      (∀ f ∈ fs.dropLast, stray keywords mayTouch f.type.chars = [] ∧
        swallows keywords mayTouch f.type.chars = false) ∧
      ∀ f ∈ fs.getLast?, stray keywords mayTouch f.type.chars = [] := by
  induction fs with
  | nil => simp [namesFound, declaredNames]
  | cons f fs ih =>
    have hcons : namesFound keywords mayTouch false (f :: fs) = declaredNames (f :: fs) ↔
        stray keywords mayTouch f.type.chars ++ namesFound keywords mayTouch
          (swallows keywords mayTouch f.type.chars) fs = declaredNames fs := by
      simp [namesFound, declaredNames]
    rw [hcons]
    cases fs with
    | nil => simp [namesFound, declaredNames]
    | cons g fs =>
      rw [List.dropLast_cons_cons, List.forall_mem_cons, List.getLast?_cons_cons, and_assoc, ← ih]
      constructor
      · intro heq
        -- There is no room for another name, as each field makes for one already.
        have hlength := congrArg List.length heq
        have hle : (g :: fs).length ≤ (namesFound keywords mayTouch
            (swallows keywords mayTouch f.type.chars) (g :: fs)).length := length_le_namesFound _
        rw [List.length_append, declaredNames, List.length_map] at hlength
        have hstray : stray keywords mayTouch f.type.chars = [] := by
          rw [← List.length_eq_zero_iff]
          omega
        rw [hstray, List.nil_append] at heq
        cases hswallows : swallows keywords mayTouch f.type.chars with
        | false =>
          rw [hswallows] at heq
          exact ⟨⟨hstray, rfl⟩, heq⟩
        | true =>
          rw [hswallows] at heq
          exact absurd (List.cons.inj heq).1 (keyword_ne_name g g)
      · rintro ⟨⟨hstray, hswallows⟩, heq⟩
        rw [hstray, hswallows, List.nil_append, heq]

end Names

/-- No type but the last has a keyword in it, and the last one has none that ends before its last
character. -/
def FieldsApart (fs : List Field) : Prop :=
  (∀ f ∈ fs.dropLast, ∀ keyword ∈ fieldKeywords, ¬keyword <:+: f.type.chars) ∧
  ∀ f ∈ fs.getLast?, ∀ keyword ∈ fieldKeywords, ¬keyword <:+: f.type.chars.dropLast

/-- No type but the last ends with a keyword. -/
def MembersApart (fs : List Field) : Prop :=
  ∀ f ∈ fs.dropLast, ∀ keyword ∈ memberKeywords, ¬keyword <:+ f.type.chars

theorem fieldsApart_iff (fs : List Field) :
    namesFound fieldKeywords true false fs = declaredNames fs ↔ FieldsApart fs := by
  have hlength : ∀ keyword ∈ fieldKeywords, keyword.length = 3 := by decide
  rw [namesFound_eq_iff, FieldsApart]
  refine and_congr (forall₂_congr fun f _ => ?_) (forall₂_congr fun f _ => ?_)
  · rw [stray_and_swallows_iff, afterKeyword?_eq_none_iff apart_fieldKeywords.nonempty]
  · rw [stray_eq_nil_iff, afterKeyword?_eq_nil_iff apart_fieldKeywords.nonempty hlength]

theorem membersApart_iff (fs : List Field) :
    namesFound memberKeywords false false fs = declaredNames fs ↔ MembersApart fs := by
  have hstray : ∀ chars, stray memberKeywords false chars = [] := fun _ => rfl
  rw [namesFound_eq_iff, MembersApart]
  simp only [hstray, true_and, implies_true, and_true]
  refine forall₂_congr fun f _ => ?_
  rw [swallows, if_neg Bool.false_ne_true, List.any_eq_false]
  simp only [List.isSuffixOf_iff_suffix]

/-! ### Suggestions and maps -/

theorem isName_of_mem_namesFound {keywords : List (List Char)} {mayTouch swallowed : Bool}
    (fs : List Field) :
    ∀ n ∈ namesFound keywords mayTouch swallowed fs, ∀ c ∈ n, isNameChar c = true := by
  induction fs generalizing swallowed with
  | nil => simp [namesFound]
  | cons f fs ih =>
    have hstray : ∀ i : Identifier, ∀ n ∈ stray keywords mayTouch i.chars, ∀ c ∈ n,
        isNameChar c = true :=
      fun i n hn c hc => i.isNameChar_of_mem ((suffix_of_mem_stray hn).mem hc)
    intro n hn
    rw [namesFound, List.mem_append, List.mem_append] at hn
    rcases hn with hn | hn | hn
    · cases swallowed with
      | false =>
        obtain rfl := List.mem_singleton.mp hn
        exact fun c => f.name.isNameChar_of_mem
      | true =>
        rcases List.mem_cons.mp hn with rfl | hn
        · exact fun c => f.keyword.isNameChar_of_mem
        · exact hstray f.name n hn
    · exact hstray f.type n hn
    · exact ih n hn

/-- What stands before the first mark is known from the text. -/
theorem eq_of_append_mark_eq {mark : Char} {front front' left left' : List Char}
    (hfront : mark ∉ front) (hfront' : mark ∉ front')
    (h : front ++ mark :: left = front' ++ mark :: left') : front = front' ∧ left = left' := by
  rcases List.append_eq_append_iff.mp h with ⟨more, rfl, hmore⟩ | ⟨more, rfl, hmore⟩
  · cases more with
    | nil => exact ⟨(List.append_nil front).symm, (List.cons.inj hmore).2⟩
    | cons c more =>
      obtain ⟨rfl, -⟩ := List.cons.inj hmore
      exact absurd (List.mem_append_right _ List.mem_cons_self) hfront'
  · cases more with
    | nil => exact ⟨List.append_nil front', (List.cons.inj hmore).2.symm⟩
    | cons c more =>
      obtain ⟨rfl, -⟩ := List.cons.inj hmore
      exact absurd (List.mem_append_right _ List.mem_cons_self) hfront

theorem toList_fieldArguments (index : Nat) (f : String) (fs : List String) :
    (", ".intercalate (Snippet.fieldArguments index (f :: fs))).toList =
      f.toList ++ ':' :: (' ' :: (Snippet.emptyPlaceholder index).toList ++
        if fs = [] then []
        else ", ".toList ++ (", ".intercalate (Snippet.fieldArguments (index + 1) fs)).toList) := by
  cases fs with
  | nil => simp [Snippet.fieldArguments, Snippet.labeled]
  | cons g fs => simp [Snippet.fieldArguments, Snippet.labeled, String.intercalate_cons_cons]

/-- The arguments of a memberwise initializer show which fields it has. -/
theorem fieldArguments_inj {fs gs : List String} (hfs : ∀ f ∈ fs, ':' ∉ f.toList)
    (hgs : ∀ g ∈ gs, ':' ∉ g.toList) {index : Nat}
    (h : (", ".intercalate (Snippet.fieldArguments index fs)).toList =
      (", ".intercalate (Snippet.fieldArguments index gs)).toList) : fs = gs := by
  induction fs generalizing gs index with
  | nil =>
    cases gs with
    | nil => rfl
    | cons g gs =>
      rw [toList_fieldArguments] at h
      simp [Snippet.fieldArguments] at h
  | cons f fs ih =>
    cases gs with
    | nil =>
      rw [toList_fieldArguments] at h
      simp [Snippet.fieldArguments] at h
    | cons g gs =>
      obtain ⟨hf, hlaterFs⟩ := List.forall_mem_cons.mp hfs
      obtain ⟨hg, hlaterGs⟩ := List.forall_mem_cons.mp hgs
      rw [toList_fieldArguments, toList_fieldArguments] at h
      -- no name holds a colon, so the first one ends each of the first names
      obtain ⟨hname, hrest⟩ := eq_of_append_mark_eq hf hg h
      obtain rfl := String.toList_inj.mp hname
      have hlater := List.append_cancel_left hrest
      cases fs with
      | nil => cases gs <;> simp_all
      | cons f' fs =>
        cases gs with
        | nil => simp at hlater
        | cons g' gs =>
          rw [if_neg (List.cons_ne_nil _ _), if_neg (List.cons_ne_nil _ _),
            List.append_cancel_left_eq] at hlater
          have hsame := ih hlaterFs hlaterGs hlater
          rw [hsame]

section Types

variable (name : Identifier) (fs : List Field) (newlineAtEnd : Bool)

theorem bracket_not_mem_typeSource : '(' ∉ typeSource "struct".toList name fs newlineAtEnd := by
  have hnot : ∀ i : Identifier, '(' ∉ i.chars := fun i => i.not_mem (by decide)
  have hline : ∀ f : Field, '(' ∉ f.line := by
    intro f
    simp [Field.line, indented, hnot]
  rw [typeSource_eq]
  cases newlineAtEnd <;> simp [between, ending, hnot, hline]

theorem memberwise?_structure :
    memberwise? [.text name.text, .inner ((namesFound fieldKeywords true false fs).map nameMatch)] =
      if fs = [] then none
      else some ⟨name.text,
        Snippet.memberwise ((namesFound fieldKeywords true false fs).map String.ofList)⟩ := by
  have htexts : ((namesFound fieldKeywords true false fs).map nameMatch).filterMap
      (Match.text? · 0) = (namesFound fieldKeywords true false fs).map String.ofList := by
    rw [List.filterMap_map, ← List.filterMap_eq_map]
    rfl
  have hnone : (namesFound fieldKeywords true false fs).map String.ofList = [] ↔ fs = [] := by
    rw [List.map_eq_nil_iff, namesFound_eq_nil_iff]
  have hmatch : memberwise?
      [.text name.text, .inner ((namesFound fieldKeywords true false fs).map nameMatch)] =
      let fields := ((namesFound fieldKeywords true false fs).map nameMatch).filterMap
        (Match.text? · 0)
      if fields.isEmpty then none else some ⟨name.text, Snippet.memberwise fields⟩ := rfl
  rw [hmatch, htexts]
  simp only [List.isEmpty_iff, hnone]

theorem calls_structure :
    calls (String.ofList (typeSource "struct".toList name fs newlineAtEnd)) =
      if fs = [] then []
      else [⟨name.text,
        Snippet.memberwise ((namesFound fieldKeywords true false fs).map String.ofList)⟩] := by
  have hbracket := bracket_not_mem_typeSource name fs newlineAtEnd
  have hfunctions : functions.findAll (String.ofList
      (typeSource "struct".toList name fs newlineAtEnd)) = [] := by
    rw [Rule.findAll, String.toList_ofList]
    exact searchAll_eq_nil_of_not_mem (s := (Step.bracket '(' ')').saving) (by simp [functions])
      rfl hbracket
  have hclasses : classInitializers.findAll (String.ofList
      (typeSource "struct".toList name fs newlineAtEnd)) = [] := by
    rw [Rule.findAll, String.toList_ofList]
    exact searchAll_eq_nil_of_not_mem (s := (Step.bracket '(' ')').saving)
      (by simp [classInitializers, insideBody]) rfl hbracket
  rw [calls, hfunctions, hclasses, findAll_structures, List.filterMap_cons, memberwise?_structure]
  by_cases hfs : fs = [] <;> simp [hfs]

theorem getElem?_memberMap (owner : String) :
    (memberMap (String.ofList (typeSource "class".toList name fs newlineAtEnd)))[owner]? =
      if owner = name.text ∧ fs ≠ [] then
        some ((namesFound memberKeywords false false fs).map String.ofList)
      else none := by
  have hmembers : membersOf ((namesFound memberKeywords false false fs).map
      fun n => (name.text, String.ofList n)) owner =
      if name.text = owner then (namesFound memberKeywords false false fs).map String.ofList
      else [] := by
    by_cases h : name.text = owner <;> simp [membersOf, h, List.filter_map, Function.comp_def]
  rw [memberMap, findAll_members, grouped_map_ofPair, MemberMap.getElem?_ofPairs, hmembers]
  by_cases howner : owner = name.text
  · subst howner
    by_cases hfs : fs = [] <;> simp [hfs, namesFound_eq_nil_iff]
  · simp [howner, Ne.symm howner]

theorem map_ofList_inj {ns ms : List (List Char)} :
    ns.map String.ofList = ms.map String.ofList ↔ ns = ms :=
  List.map_inj_right fun _ _ => String.ofList_inj.mp

theorem colon_not_mem {ns : List (List Char)} (h : ∀ n ∈ ns, ∀ c ∈ n, isNameChar c = true) :
    ∀ f ∈ ns.map String.ofList, ':' ∉ f.toList := by
  intro f hf hmem
  obtain ⟨n, hn, rfl⟩ := List.mem_map.mp hf
  rw [String.toList_ofList] at hmem
  exact absurd (h n hn ':' hmem) (by decide)

theorem map_text_eq : fs.map (·.name.text) = (declaredNames fs).map String.ofList := by
  rw [declaredNames, List.map_map]
  rfl

theorem calls_structure_eq_iff :
    calls (String.ofList (typeSource "struct".toList name fs newlineAtEnd)) =
        (if fs = [] then [] else [⟨name.text, Snippet.memberwise (fs.map (·.name.text))⟩]) ↔
      namesFound fieldKeywords true false fs = declaredNames fs := by
  rw [calls_structure, map_text_eq]
  by_cases hfs : fs = []
  · subst hfs
    simp [namesFound, declaredNames]
  · rw [if_neg hfs, if_neg hfs]
    constructor
    · intro h
      simp only [List.cons.injEq, Suggestion.mk.injEq, true_and, and_true] at h
      have hfound : ∀ n ∈ namesFound fieldKeywords true false fs, ∀ c ∈ n, isNameChar c = true :=
        isName_of_mem_namesFound fs
      have hnames : ∀ n ∈ declaredNames fs, ∀ c ∈ n, isNameChar c = true := by
        intro n hn
        obtain ⟨f, -, rfl⟩ := List.mem_map.mp hn
        exact fun c => f.name.isNameChar_of_mem
      exact map_ofList_inj.mp
        (fieldArguments_inj (colon_not_mem hfound) (colon_not_mem hnames)
          (congrArg String.toList h))
    · intro h
      rw [h]

theorem memberMap_class_eq_iff :
    (∀ owner, (memberMap (String.ofList (typeSource "class".toList name fs newlineAtEnd)))[owner]? =
        if owner = name.text ∧ fs ≠ [] then some (fs.map (·.name.text)) else none) ↔
      namesFound memberKeywords false false fs = declaredNames fs := by
  simp only [getElem?_memberMap, map_text_eq]
  constructor
  · intro h
    by_cases hfs : fs = []
    · subst hfs
      rfl
    · have hname := h name.text
      rw [if_pos ⟨rfl, hfs⟩, if_pos ⟨rfl, hfs⟩] at hname
      exact map_ofList_inj.mp (Option.some.inj hname)
  · intro h owner
    rw [h]

/-- The names that are declared in a structure and in a class are found just when no type leads the
search astray. -/
theorem declared_names_are_found_iff :
    (calls (String.ofList (typeSource "struct".toList name fs newlineAtEnd)) =
        (if fs = [] then []
          else [⟨name.text, Snippet.memberwise (fs.map (·.name.text))⟩]) ↔ FieldsApart fs) ∧
      ((∀ owner,
        (memberMap (String.ofList (typeSource "class".toList name fs newlineAtEnd)))[owner]? =
        if owner = name.text ∧ fs ≠ [] then some (fs.map (·.name.text)) else none) ↔
          MembersApart fs) := by
  constructor
  · rw [calls_structure_eq_iff, fieldsApart_iff]
  · rw [memberMap_class_eq_iff, membersApart_iff]

end Types

/-- A name for a type, and two fields of which the first has a type that ends with a keyword. -/
def view : Identifier where
  chars := "View".toList

def outletFields : List Field := [
  ⟨false, { chars := "logo".toList }, { chars := "Outlet".toList }, by decide⟩,
  ⟨false, { chars := "title".toList }, { chars := "Label".toList }, by decide⟩]

theorem outlet_swallows_the_next_keyword :
    (calls (String.ofList (typeSource "struct".toList view outletFields false)) =
        [⟨"View", "logo: ${1}, let: ${2}"⟩] ∧
      calls (String.ofList (typeSource "struct".toList view outletFields false)) ≠
        [⟨"View", Snippet.memberwise (outletFields.map (·.name.text))⟩]) ∧
    (memberMap (String.ofList (typeSource "class".toList view outletFields false)))["View"]? =
        some ["logo", "let"] ∧
      (memberMap (String.ofList (typeSource "class".toList view outletFields false)))["View"]? ≠
        some (outletFields.map (·.name.text)) := by
  have hcalls := calls_structure view outletFields false
  have hmembers := getElem?_memberMap view outletFields false "View"
  have hfields : namesFound fieldKeywords true false outletFields =
      ["logo".toList, "let".toList] := by decide
  have hnames : namesFound memberKeywords false false outletFields =
      ["logo".toList, "let".toList] := by decide
  rw [hfields] at hcalls
  rw [hnames] at hmembers
  rw [hcalls, hmembers]
  decide

end Swift
end Autocomplete
