import Autocomplete.Proofs.Scan.Reading

/-!
# Keywords inside names

A rule that looks for a keyword finds it inside a name as well. What it makes of it depends on the
first keyword in the name and on what the name goes on with after it. A rule that asks for blanks
after a keyword is led astray only by a name that ends with one.
-/

namespace Autocomplete
namespace Scan

/-- What a text goes on with after the first keyword in it. -/
def afterKeyword? (keywords : List (List Char)) : List Char → Option (List Char)
  | [] => none
  | c :: rest =>
    match keywords.find? (·.isPrefixOf (c :: rest)) with
    | some keyword => some ((c :: rest).drop keyword.length)
    | none => afterKeyword? keywords rest

section Keywords

variable {keywords : List (List Char)} {chars rest : List Char}

theorem not_prefix_of_find?_eq_none
    (h : keywords.find? (·.isPrefixOf chars) = none) {keyword : List Char}
    (hkeyword : keyword ∈ keywords) : ¬keyword <+: chars := by
  have hfind := List.find?_eq_none.mp h keyword hkeyword
  simpa using hfind

theorem afterKeyword?_eq_none_iff (hne : [] ∉ keywords) :
    afterKeyword? keywords chars = none ↔ ∀ keyword ∈ keywords, ¬keyword <:+: chars := by
  induction chars with
  | nil =>
    refine iff_of_true rfl ?_
    intro keyword hkeyword hinside
    rw [List.infix_nil] at hinside
    exact hne (hinside ▸ hkeyword)
  | cons c rest ih =>
    rw [afterKeyword?]
    split
    · rename_i keyword hfind
      have hmem := List.mem_of_find?_eq_some hfind
      have hbegins : keyword <+: c :: rest := by simpa using List.find?_some hfind
      refine iff_of_false (by simp) ?_
      intro hnone
      exact hnone keyword hmem hbegins.isInfix
    · rename_i hfind
      rw [ih]
      refine forall₂_congr fun keyword hkeyword => ?_
      rw [List.infix_cons_iff, not_or, and_iff_right (not_prefix_of_find?_eq_none hfind hkeyword)]

/-- Where all keywords have one length, nothing follows the first one just when none of them ends
before the last character. -/
theorem afterKeyword?_eq_nil_iff (hne : [] ∉ keywords) {n : Nat}
    (hlength : ∀ keyword ∈ keywords, keyword.length = n) :
    (∀ after ∈ afterKeyword? keywords chars, after = []) ↔
      ∀ keyword ∈ keywords, ¬keyword <:+: chars.dropLast := by
  induction chars with
  | nil =>
    refine iff_of_true (by simp [afterKeyword?]) ?_
    intro keyword hkeyword hinside
    rw [List.dropLast_nil, List.infix_nil] at hinside
    exact hne (hinside ▸ hkeyword)
  | cons c rest ih =>
    rw [afterKeyword?]
    split
    · rename_i keyword hfind
      have hmem := List.mem_of_find?_eq_some hfind
      have hbegins : keyword <+: c :: rest := by simpa using List.find?_some hfind
      -- all keywords have one length: where this one ends the text, none ends before it
      simp only [Option.mem_some_iff, forall_eq', List.drop_eq_nil_iff]
      constructor
      · intro hshort other hother hinside
        have hle := hinside.length_le
        rw [hlength keyword hmem] at hshort
        rw [hlength other hother, List.length_dropLast] at hle
        rw [List.length_cons] at hshort hle
        omega
      · intro hnone
        refine Nat.le_of_not_lt fun hlong => hnone keyword hmem ?_
        apply List.IsPrefix.isInfix
        apply List.prefix_of_prefix_length_le hbegins (List.dropLast_prefix _)
        rw [List.length_dropLast]
        omega
    · rename_i hfind
      rw [ih]
      refine forall₂_congr fun keyword hkeyword => not_congr ?_
      cases rest with
      | nil => rfl
      | cons d rest =>
        rw [List.dropLast_cons_of_ne_nil (List.cons_ne_nil d rest), List.infix_cons_iff]
        refine (or_iff_right fun hbegins => ?_).symm
        apply not_prefix_of_find?_eq_none hfind hkeyword
        exact hbegins.trans ((List.prefix_cons_inj c).mpr (List.dropLast_prefix _))

theorem suffix_of_afterKeyword? {after : List Char}
    (h : afterKeyword? keywords chars = some after) :
    after <:+ chars := by
  induction chars with
  | nil => exact absurd h (by simp [afterKeyword?])
  | cons c rest ih =>
    rw [afterKeyword?] at h
    split at h
    · rw [← Option.some.inj h]
      exact List.drop_suffix _ _
    · exact (ih h).trans (List.suffix_cons c rest)

variable {mark : Char}

theorem prefix_append_iff {keyword : List Char} (h : mark ∉ keyword) (left : List Char) :
    keyword <+: chars ++ mark :: left ↔ keyword <+: chars := by
  constructor
  · intro hbegins
    rcases List.prefix_or_prefix_of_prefix hbegins (List.prefix_append chars (mark :: left)) with
      hshort | ⟨more, rfl⟩
    · exact hshort
    · cases more with
      | nil => simp
      | cons c more =>
        rw [List.prefix_append_right_inj, List.cons_prefix_cons] at hbegins
        exact absurd (hbegins.1 ▸ List.mem_append_right _ List.mem_cons_self) h
  · exact fun hbegins => hbegins.trans (List.prefix_append _ _)

theorem find?_append (hmark : ∀ keyword ∈ keywords, mark ∉ keyword) (left : List Char) :
    keywords.find? (·.isPrefixOf (chars ++ mark :: left)) =
      keywords.find? (·.isPrefixOf chars) := by
  induction keywords with
  | nil => rfl
  | cons keyword keywords ih =>
    have hsame : keyword.isPrefixOf (chars ++ mark :: left) = keyword.isPrefixOf chars := by
      rw [Bool.eq_iff_iff, List.isPrefixOf_iff_prefix, List.isPrefixOf_iff_prefix]
      exact prefix_append_iff (hmark keyword List.mem_cons_self) left
    have hlater := ih fun other hother => hmark other (List.mem_cons_of_mem keyword hother)
    rw [List.find?_cons, List.find?_cons, hsame, hlater]

theorem silent_of_afterKeyword?_eq_none (hmark : ∀ keyword ∈ keywords, mark ∉ keyword)
    (h : afterKeyword? keywords chars = none) (left : List Char) :
    Silent keywords chars (mark :: left) := by
  induction chars with
  | nil => trivial
  | cons c rest ih =>
    rw [afterKeyword?] at h
    split at h
    · exact absurd h (by simp)
    · rename_i hfind
      refine ⟨fun keyword hkeyword => ?_, ih h⟩
      rw [← List.cons_append, prefix_append_iff (hmark keyword hkeyword)]
      exact not_prefix_of_find?_eq_none hfind hkeyword

theorem exists_of_afterKeyword?_eq_some (hmark : ∀ keyword ∈ keywords, mark ∉ keyword)
    {after : List Char} (h : afterKeyword? keywords chars = some after) (left : List Char) :
    ∃ front, ∃ keyword ∈ keywords, chars = front ++ (keyword ++ after) ∧
      Silent keywords front (keyword ++ (after ++ mark :: left)) ∧
      keywords.find? (·.isPrefixOf (keyword ++ (after ++ mark :: left))) = some keyword := by
  induction chars with
  | nil => exact absurd h (by simp [afterKeyword?])
  | cons c rest ih =>
    rw [afterKeyword?] at h
    split at h
    · rename_i keyword hfind
      have hmem := List.mem_of_find?_eq_some hfind
      have hbegins : keyword <+: c :: rest := by simpa using List.find?_some hfind
      obtain ⟨more, hmore⟩ := hbegins
      rw [← hmore, List.drop_left, Option.some.injEq] at h
      subst h
      refine ⟨[], keyword, hmem, hmore.symm, trivial, ?_⟩
      rw [← List.append_assoc, find?_append hmark, hmore]
      exact hfind
    · rename_i hfind
      obtain ⟨front, keyword, hmem, rfl, hsilent, hhit⟩ := ih h
      refine ⟨c :: front, keyword, hmem, rfl, ⟨fun other hother => ?_, hsilent⟩, hhit⟩
      have hnot := not_prefix_of_find?_eq_none hfind hother
      rw [← prefix_append_iff (hmark other hother) left] at hnot
      simpa using hnot

end Keywords

/-! ### Declared names -/

open Text

/-- Keywords that are names, and in none of which another one ends before its end. -/
structure Apart (keywords : List (List Char)) : Prop where
  nonempty : [] ∉ keywords
  isName : ∀ keyword ∈ keywords, keyword.all isNameChar = true
  last : ∀ keyword ∈ keywords, ∀ other ∈ keywords,
    keyword.getLast?.any (· ∈ other.dropLast) = false

/-- The steps that look for a keyword and the name behind it. The name may touch the keyword, or
there have to be blanks in between. -/
def nameSteps (keywords : List (List Char)) (mayTouch : Bool) : List Step :=
  [Step.plain (.oneOf keywords), Step.run .space mayTouch, Step.word.saving]

/-- The match of a name. -/
def nameMatch (chars : List Char) : Match := [.text (String.ofList chars)]

/-- What is taken for a name inside of another name. -/
def stray (keywords : List (List Char)) (mayTouch : Bool) (chars : List Char) : List (List Char) :=
  match mayTouch, afterKeyword? keywords chars with
  | true, some (c :: after) => [c :: after]
  | _, _ => []

/-- Whether a name ends with a keyword, so that the word behind the name is taken for a declared
one. -/
def swallows (keywords : List (List Char)) (mayTouch : Bool) (chars : List Char) : Bool :=
  if mayTouch then afterKeyword? keywords chars == some [] else keywords.any (·.isSuffixOf chars)

section Names

variable {keywords : List (List Char)} {chars front keyword after gap left : List Char}
  {mark : Char} {mayTouch : Bool} {found ended : List Match}

theorem Apart.mark_not_mem (h : Apart keywords) (hmark : isNameChar mark = false) :
    ∀ keyword ∈ keywords, mark ∉ keyword := by
  intro keyword hkeyword hmem
  have hname := List.all_eq_true.mp (h.isName keyword hkeyword) mark hmem
  exact absurd (hmark.symm.trans hname) Bool.false_ne_true

theorem Apart.getLast_not_mem (h : Apart keywords) (hkeyword : keyword ∈ keywords)
    (hne : keyword ≠ []) {other : List Char} (hother : other ∈ keywords) :
    keyword.getLast hne ∉ other.dropLast := by
  have hlast := h.last keyword hkeyword other hother
  rw [List.getLast?_eq_some_getLast hne, Option.any_some] at hlast
  exact of_decide_eq_false hlast

theorem Apart.silent (h : Apart keywords) (hgap : gap.any isNameChar = false)
    (left : List Char) : Silent keywords gap left := by
  apply silent_of_head
  intro c hc keyword hkeyword
  have hname := h.isName keyword hkeyword
  cases keyword with
  | nil => exact absurd hkeyword h.nonempty
  | cons d keyword =>
    rw [List.head?_cons, Option.any_some, bne_iff_ne]
    rintro rfl
    exact List.any_eq_false.mp hgap d hc (List.all_eq_true.mp hname d List.mem_cons_self)

theorem Apart.find?_eq (h : Apart keywords) (hkeyword : keyword ∈ keywords)
    (hmark : isNameChar mark = false) (left : List Char) :
    keywords.find? (·.isPrefixOf (keyword ++ mark :: left)) = some keyword := by
  rw [find?_append (h.mark_not_mem hmark)]
  cases hfind : keywords.find? (·.isPrefixOf keyword) with
  | none => exact absurd (List.prefix_refl keyword) (not_prefix_of_find?_eq_none hfind hkeyword)
  | some other =>
    have hother := List.mem_of_find?_eq_some hfind
    have hbegins : other <+: keyword := by simpa using List.find?_some hfind
    obtain ⟨more, rfl⟩ := hbegins
    cases more with
    | nil => rw [List.append_nil]
    | cons c more =>
      have hne : other ≠ [] := fun heq => h.nonempty (heq ▸ hother)
      refine absurd ?_ (h.getLast_not_mem hother hne hkeyword)
      rw [List.dropLast_append_of_ne_nil (List.cons_ne_nil c more)]
      exact List.mem_append_left _ (List.getLast_mem hne)

/-- No keyword ends inside of another one, so only what follows a keyword tells whether a name ends
with one. -/
theorem Apart.any_isSuffixOf (h : Apart keywords) (hkeyword : keyword ∈ keywords)
    (hafter : after ≠ []) :
    keywords.any (·.isSuffixOf (front ++ (keyword ++ after))) =
      keywords.any (·.isSuffixOf after) := by
  have hne : keyword ≠ [] := fun heq => h.nonempty (heq ▸ hkeyword)
  have hlast := List.dropLast_concat_getLast hne
  have hsuffix : keyword.getLast hne :: after <:+ front ++ (keyword ++ after) := by
    refine ⟨front ++ keyword.dropLast, ?_⟩
    rw [List.append_assoc, List.append_right_inj, ← List.singleton_append, ← List.append_assoc,
      hlast]
  have hinside : ∀ other ∈ keywords, ∀ start, other ≠ start ++ keyword.getLast hne :: after := by
    rintro other hother start rfl
    refine h.getLast_not_mem hkeyword hne hother ?_
    rw [List.dropLast_append_of_ne_nil (List.cons_ne_nil _ _),
      List.dropLast_cons_of_ne_nil hafter]
    exact List.mem_append_right _ List.mem_cons_self
  rw [Bool.eq_iff_iff, List.any_eq_true, List.any_eq_true]
  refine exists_congr fun other => and_congr_right fun hother => ?_
  rw [List.isSuffixOf_iff_suffix, List.isSuffixOf_iff_suffix]
  constructor
  · intro hother'
    rcases List.suffix_or_suffix_of_suffix hother' hsuffix with hshort | ⟨start, hstart⟩
    · rcases List.suffix_cons_iff.mp hshort with heq | hshort
      · exact absurd heq (hinside other hother [])
      · exact hshort
    · exact absurd hstart.symm (hinside other hother start)
  · intro hshort
    exact (hshort.trans (List.suffix_append keyword after)).trans (List.suffix_append front _)

theorem stray_eq_nil (h : ∀ after ∈ afterKeyword? keywords chars, after = []) :
    stray keywords mayTouch chars = [] := by
  unfold stray
  split
  · rename_i c after hafter
    exact absurd (h _ hafter) (List.cons_ne_nil c after)
  · rfl

theorem stray_of_cons {c : Char} (h : afterKeyword? keywords chars = some (c :: after)) :
    stray keywords mayTouch chars = if mayTouch then [c :: after] else [] := by
  unfold stray
  rw [h]
  cases mayTouch <;> rfl

theorem suffix_of_mem_stray {n : List Char} (h : n ∈ stray keywords mayTouch chars) :
    n <:+ chars := by
  unfold stray at h
  split at h
  · rename_i hafter
    rw [List.mem_singleton.mp h]
    exact suffix_of_afterKeyword? hafter
  · exact absurd h List.not_mem_nil

theorem stray_eq_nil_iff : stray keywords true chars = [] ↔
    ∀ after ∈ afterKeyword? keywords chars, after = [] := by
  refine ⟨fun h after hafter => ?_, stray_eq_nil⟩
  cases after with
  | nil => rfl
  | cons c after =>
    rw [stray_of_cons hafter, if_pos rfl] at h
    exact absurd h (List.cons_ne_nil _ _)

theorem stray_and_swallows_iff : (stray keywords true chars = [] ∧
    swallows keywords true chars = false) ↔ afterKeyword? keywords chars = none := by
  rw [stray_eq_nil_iff, swallows, if_pos rfl, beq_eq_false_iff_ne]
  constructor
  · rintro ⟨hnil, hne⟩
    rw [Option.eq_none_iff_forall_not_mem]
    intro after hafter
    rw [hnil after hafter] at hafter
    exact hne hafter
  · intro hnone
    simp [hnone]

theorem swallows_of_none (h : Apart keywords) (hafter : afterKeyword? keywords chars = none) :
    swallows keywords mayTouch chars = false := by
  rw [swallows, hafter]
  cases mayTouch with
  | true => rfl
  | false =>
    rw [if_neg Bool.false_ne_true, List.any_eq_false]
    intro keyword hkeyword hsuffix
    apply (afterKeyword?_eq_none_iff h.nonempty).mp hafter keyword hkeyword
    exact (List.isSuffixOf_iff_suffix.mp hsuffix).isInfix

theorem swallows_of_nil (hkeyword : keyword ∈ keywords)
    (hafter : afterKeyword? keywords (front ++ keyword) = some []) :
    swallows keywords mayTouch (front ++ keyword) = true := by
  rw [swallows, hafter]
  cases mayTouch with
  | true => rfl
  | false =>
    rw [if_neg Bool.false_ne_true, List.any_eq_true]
    exact ⟨keyword, hkeyword, List.isSuffixOf_iff_suffix.mpr (List.suffix_append front keyword)⟩

/-- A keyword in front does not matter where blanks are asked for after it. -/
theorem swallows_append (h : Apart keywords) (hkeyword : keyword ∈ keywords) (hafter : after ≠ []) :
    swallows keywords false (front ++ (keyword ++ after)) = swallows keywords false after :=
  h.any_isSuffixOf hkeyword hafter

variable (keywords mayTouch) in
/-- What a search for declared names makes of the text ahead: `found` where it comes there from
above, `ended` where a keyword stands right before the text. -/
structure NamesAhead (ahead : List Char) (found ended : List Match) : Prop where
  searched : ∀ gap, Silent keywords gap ahead →
    Finds (nameSteps keywords mayTouch) (gap ++ ahead) found
  entered : ∃ read left later, Reads (nameSteps keywords mayTouch).tail ahead read left ∧
    Finds (nameSteps keywords mayTouch) left later ∧ read ++ later = ended

theorem Apart.exists_hits (h : Apart keywords) (hmark : isNameChar mark = false)
    (hgap : Silent keywords gap (chars ++ mark :: left))
    (hafter : afterKeyword? keywords chars = some after) :
    ∃ front, ∃ keyword ∈ keywords, chars = front ++ (keyword ++ after) ∧
      (Probe.oneOf keywords).Hits (gap ++ front) keyword (after ++ mark :: left) := by
  obtain ⟨front, keyword, hkeyword, rfl, hsilent, hfirst⟩ :=
    exists_of_afterKeyword?_eq_some (h.mark_not_mem hmark) hafter left
  have hne : keyword ≠ [] := fun heq => h.nonempty (heq ▸ hkeyword)
  refine ⟨front, keyword, hkeyword, rfl, Probe.hits_oneOf ?_ hfirst hne⟩
  apply silent_append _ hsilent
  simpa using hgap

/-- What touches a keyword is found as a name. -/
theorem finds_touching (hne : keyword ≠ [])
    (hhit : (Probe.oneOf keywords).Hits gap keyword (after ++ mark :: left))
    (hafter : after ≠ []) (hchars : after.all isNameChar = true) (hmark : isNameChar mark = false)
    (hlater : Finds (nameSteps keywords true) (mark :: left) found) :
    Finds (nameSteps keywords true) (gap ++ (keyword ++ (after ++ mark :: left)))
      (nameMatch after :: found) := by
  let i : Identifier := ⟨after, hafter, hchars⟩
  have hbehind : (mark :: left).head?.any isNameChar = false := hmark
  have hword := Reads.word i hbehind (Reads.nil (mark :: left))
  have hspaces := Reads.spaces List.all_nil
    (i.head_append (fun _ => isScanSpace_of_isNameChar) _) (i.append_ne_nil _) hword
  exact Finds.plain hhit hne hspaces hlater

/-- Where blanks are asked for, a keyword that something touches is passed over. -/
theorem finds_past (hne : keyword ≠ [])
    (hhit : (Probe.oneOf keywords).Hits gap keyword (after ++ mark :: left))
    (hafter : after ≠ []) (hchars : after.all isNameChar = true)
    (hlater : Finds (nameSteps keywords false) (after ++ mark :: left) found) :
    Finds (nameSteps keywords false) (gap ++ (keyword ++ (after ++ mark :: left))) found := by
  let i : Identifier := ⟨after, hafter, hchars⟩
  have hspace := i.head_append (fun _ => isScanSpace_of_isNameChar) (mark :: left)
  have hmiss : Reads (nameSteps keywords false).tail (after ++ mark :: left) []
      (after ++ mark :: left) :=
    Reads.miss rfl (List.suffix_refl _) (i.append_ne_nil _)
      (Probe.misses_run (fun _ _ => rfl) hspace)
  exact Finds.plain hhit hne hmiss hlater

/-- A search that comes to a name goes on behind it with `found`, after what it takes for a name in
it, unless the name ends with a keyword: then it goes on with `ended`. -/
theorem finds_name (h : Apart keywords) {chars : List Char}
    (hchars : chars.all isNameChar = true) (hmark : isNameChar mark = false)
    (hgap : Silent keywords gap (chars ++ mark :: left))
    (hahead : NamesAhead keywords mayTouch (mark :: left) found ended) :
    Finds (nameSteps keywords mayTouch) (gap ++ (chars ++ mark :: left))
      ((stray keywords mayTouch chars).map nameMatch ++
        if swallows keywords mayTouch chars then ended else found) := by
  induction hlength : chars.length using Nat.strongRecOn generalizing chars gap with
  | ind n ih =>
  cases hafter : afterKeyword? keywords chars with
  | none =>
    have hquiet := silent_append hgap
      (silent_of_afterKeyword?_eq_none (h.mark_not_mem hmark) hafter left)
    have hfinds := hahead.searched (gap ++ chars) hquiet
    rw [List.append_assoc] at hfinds
    rw [swallows_of_none h hafter, if_neg Bool.false_ne_true, stray_eq_nil (by simp [hafter])]
    exact hfinds
  | some after =>
    obtain ⟨front, keyword, hkeyword, rfl, hhit⟩ := h.exists_hits hmark hgap hafter
    have hne : keyword ≠ [] := fun heq => h.nonempty (heq ▸ hkeyword)
    have htext : gap ++ ((front ++ (keyword ++ after)) ++ mark :: left) =
        (gap ++ front) ++ (keyword ++ (after ++ mark :: left)) := by
      simp
    rw [htext]
    cases after with
    | nil =>
      -- The blanks and the word after the keyword are those behind the name.
      obtain ⟨read, left', later, hread, hlater, rfl⟩ := hahead.entered
      rw [List.append_nil] at hafter ⊢
      have hfinds := Finds.plain hhit hne hread hlater
      rw [swallows_of_nil hkeyword hafter, if_pos rfl, stray_eq_nil (by simp [hafter])]
      exact hfinds
    | cons c after =>
      have hcons := List.cons_ne_nil c after
      have hafterChars : (c :: after).all isNameChar = true := by
        rw [List.all_append, List.all_append, Bool.and_eq_true, Bool.and_eq_true] at hchars
        exact hchars.2.2
      rw [stray_of_cons hafter]
      cases mayTouch with
      | true =>
        have hkept : swallows keywords true (front ++ (keyword ++ c :: after)) = false := by
          rw [swallows, if_pos rfl, hafter]
          rfl
        rw [hkept, if_pos rfl, if_neg Bool.false_ne_true]
        exact finds_touching hne hhit hcons hafterChars hmark (hahead.searched [] trivial)
      | false =>
        have hshort : (c :: after).length < n := by
          have hpos := List.length_pos_iff.mpr hne
          rw [← hlength, List.length_append, List.length_append]
          omega
        have hlater : Finds (nameSteps keywords false) ((c :: after) ++ mark :: left)
            ((stray keywords false (c :: after)).map nameMatch ++
              if swallows keywords false (c :: after) then ended else found) :=
          ih _ hshort hafterChars (show Silent keywords [] _ from trivial) rfl
        rw [swallows_append h hkeyword hcons]
        exact finds_past hne hhit hcons hafterChars hlater

end Names

end Scan
end Autocomplete
