import Autocomplete.Proofs.TypeGuess.Mentions

/-!
# The last mention of a variable

A guess is the type of the last mention that the rule reports. That need not be the last mention of
the variable: the name of another variable may end with its name, and a mention that begins with the
type of the one before it is passed over. Where neither happens, the guess is the type of the last
mention.
-/

namespace Autocomplete
namespace TypeGuesses

open Scan Text

namespace Mention

/-- The name does not go on to the left. -/
def StandsAlone (text : Array Char) (m : Mention) : Prop :=
  ∀ i, i + 1 = m.start → charAtSatisfies text isNameChar i = false

/-- The last of the mentions whose name stands alone. -/
structure IsLast (text : Array Char) (name : List Char) (m : Mention) : Prop where
  occurs : m.Occurs text name
  alone : m.StandsAlone text
  last : ∀ other : Mention, other.Occurs text name → other.StandsAlone text → other.start ≤ m.start

end Mention

section Hidden

variable {text : Array Char} {name : List Char} {place : Nat} {m : Mention}

theorem not_name_of_sign {i : Nat} (h : charAtSatisfies text isSign i = true) :
    charAtSatisfies text isNameChar i = false :=
  not_of_sign (by decide) (by decide) h

theorem allIn_of_occursAt (hname : name.all isNameChar = true)
    (h : occursAt text name place text.size = true) :
    AllIn text isNameChar ⟨place, place + name.length⟩ := by
  refine ⟨Nat.le_add_right _ _, fun i hi hlt => ?_⟩
  obtain ⟨k, rfl⟩ := Nat.exists_eq_add_of_le hi
  have hk : k < name.length := Nat.lt_of_add_lt_add_left hlt
  rw [charAtSatisfies, getElem?_of_occursAt h hk, List.getElem?_eq_getElem hk]
  exact List.all_eq_true.mp hname _ (List.getElem_mem hk)

/-- A name that stands alone is not read across, unless it is the type of a mention. -/
theorem exists_mentionAt?_of_lt_reach (hname : name.all isNameChar = true)
    (hplace : occursAt text name place text.size = true) {q : Nat} (hlt : place < q)
    (hq : charAtSatisfies text isNameChar q = true)
    (halone : charAtSatisfies text isNameChar (q - 1) = false)
    (hreach : q < reach text name place) :
    ∃ r, mentionAt? text name place = some r ∧ r.type.start = q := by
  have hspace := not_space_of_charAtSatisfies hq
  have hend := add_length_le_of_occursAt hplace
  have hfull : place + name.length ≤ q := by
    apply Nat.le_of_not_lt
    intro hinside
    have hbefore := (allIn_of_occursAt hname hplace).2 (q - 1) (Nat.le_sub_one_of_lt hlt)
      (Nat.lt_of_le_of_lt (Nat.sub_le q 1) hinside)
    rw [halone] at hbefore
    exact Bool.noConfusion hbefore
  -- No space and no sign stands at `q`, so what is read across it is the type, from its start on.
  have hgap : signAt text name place ≤ q := runEnd_le_of_not hfull hspace hend
  unfold reach at hreach
  split at hreach
  · rename_i hsign
    have hne : signAt text name place ≠ q := by
      rintro rfl
      rw [not_name_of_sign hsign] at hq
      exact Bool.noConfusion hq
    have hfirst : (typeAt text name place).start ≤ q :=
      runEnd_le_of_not (Nat.lt_of_le_of_ne hgap hne) hspace (lt_size_of_charAtSatisfies hsign)
    split at hreach
    · rename_i hcapital
      refine ⟨_, if_pos (by rw [hsign, hcapital]; rfl), ?_⟩
      apply Nat.le_antisymm hfirst
      apply Nat.le_of_not_lt
      intro hinside
      have htype : (typeAt text name place).stop ≤ q - 1 :=
        runEnd_le_of_not (Nat.le_sub_one_of_lt hinside) halone
          (Nat.le_of_lt (lt_size_of_charAtSatisfies hcapital))
      omega
    · omega
  · omega

theorem Mention.Occurs.start_lt (h : m.Occurs text name) : m.start < m.type.start := by
  have hgap := h.gap.1
  have hlater := h.laterGap.1
  simp only at hgap hlater
  omega

theorem Mention.Occurs.name_at_start (h : m.Occurs text name) (hne : name ≠ [])
    (hname : name.all isNameChar = true) : charAtSatisfies text isNameChar m.start = true := by
  have hlength := List.length_pos_iff.mpr hne
  exact (allIn_of_occursAt hname h.named).2 m.start (Nat.le_refl _) (by simp only; omega)

/-- Of the mentions whose name stands alone, just those are passed over that begin with the type of
a reported mention. -/
theorem mem_reported_iff_of_standsAlone (hne : name ≠ []) (hname : name.all isNameChar = true)
    (hoccurs : m.Occurs text name) (halone : m.StandsAlone text) :
    m ∈ reported text name ↔ ∀ r ∈ reported text name, r.type.start ≠ m.start := by
  rw [mem_reported_iff_tried hne, mem_tried_iff hne]
  constructor
  · rintro ⟨⟨-, hhidden⟩, -⟩ r hr heq
    obtain ⟨htried, hr'⟩ := (mem_reported_iff_tried hne).mp hr
    have hlt := hr'.start_lt
    have hnonempty := hr'.nonempty
    have hreach := hhidden r.start htried (by omega)
    rw [reach_of_mentionAt? hr'.mentionAt?_eq] at hreach
    omega
  · intro hnone
    refine ⟨⟨hoccurs.named, fun earlier htried hlt => ?_⟩, hoccurs⟩
    apply Nat.le_of_not_lt
    intro hreach
    have hbefore := halone (m.start - 1) (by omega)
    obtain ⟨r, hread, hstart⟩ := exists_mentionAt?_of_lt_reach hname
      ((mem_tried_iff hne).mp htried).1 hlt (hoccurs.name_at_start hne hname) hbefore hreach
    exact hnone r (List.mem_filterMap.mpr ⟨earlier, htried, hread⟩) hstart

theorem Mention.Occurs.typeText_eq {r : Mention} (h : m.Occurs text name)
    (hname : name.all isNameChar = true) (hr : r.Occurs text name)
    (hstart : r.type.start = m.start) : r.typeText text = String.ofList name := by
  have hend : charAtSatisfies text isNameChar (m.start + name.length) = false := by
    rcases Nat.eq_or_lt_of_le h.gap.1 with heq | hlt
    · have hsign : m.start + name.length = m.sign := heq
      rw [hsign]
      exact not_name_of_sign h.sign
    · cases hchar : charAtSatisfies text isNameChar (m.start + name.length) with
      | false => rfl
      | true =>
        have hspace := not_space_of_charAtSatisfies hchar
        rw [h.gap.2 _ (Nat.le_refl _) hlt] at hspace
        exact Bool.noConfusion hspace
  have hread := (allIn_of_occursAt hname h.named).runEnd_eq hend (add_length_le_of_occursAt h.named)
  have hstop : r.type.stop = m.start + name.length := by
    rw [← hr.type.runEnd_eq hr.whole (hr.type.stop_le_size hr.nonempty), hstart]
    exact hread
  have htype : r.type = ⟨m.start, m.start + name.length⟩ := by
    rw [← hstop, ← hstart]
  rw [typeText, htype, ((occursAt_iff text name m.start text.size).mp h.named).2]

end Hidden

section Guess

variable {text : Array Char} {name : List Char} {m r : Mention}

theorem start_le_of_getLast? (hne : name ≠ []) (hlast : (reported text name).getLast? = some r)
    (hm : m ∈ reported text name) : m.start ≤ r.start := by
  obtain ⟨front, hfront⟩ := List.getLast?_eq_some_iff.mp hlast
  have hordered : (reported text name).Pairwise fun b c => b.start < c.start :=
    pairwise_reported hne
  rw [hfront, List.pairwise_append] at hordered
  rw [hfront, List.mem_append, List.mem_singleton] at hm
  rcases hm with hm | rfl
  · exact Nat.le_of_lt (hordered.2.2 m hm r List.mem_cons_self)
  · exact Nat.le_refl _

theorem guess_of_new {v : String} (hne : v ≠ "") (text : String) :
    (({} : TypeGuesses).guess v text).1 = mentioned? v text := by
  rw [guess, if_neg hne]
  cases mentioned? v text with
  | none => exact Std.ExtTreeMap.getElem?_empty
  | some type => rfl

theorem mentioned?_eq {v : String} (hne : v ≠ "") (text : String) :
    mentioned? v text = (reported text.toList.toArray v.toList).getLast?.map
      (Mention.typeText text.toList.toArray) := by
  rw [mentioned?, searchAll_mention v hne, List.getLast?_map, Option.bind_map]
  cases (reported text.toList.toArray v.toList).getLast? <;> rfl

theorem mem_reported_of_standsAlone (hne : name ≠ []) (hname : name.all isNameChar = true)
    (hreported : ∀ r ∈ reported text name, r.typeText text ≠ String.ofList name)
    (hoccurs : m.Occurs text name) (halone : m.StandsAlone text) : m ∈ reported text name := by
  rw [mem_reported_iff_of_standsAlone hne hname hoccurs halone]
  intro r hr hstart
  have hr' := ((mem_reported_iff_tried hne).mp hr).2
  exact hreported r hr (hoccurs.typeText_eq hname hr' hstart)

theorem Mention.IsLast.getLast?_eq (hm : m.IsLast text name) (hne : name ≠ [])
    (hmem : m ∈ reported text name) (hreported : ∀ r ∈ reported text name, r.StandsAlone text) :
    (reported text name).getLast? = some m := by
  obtain ⟨r, hr⟩ := Option.isSome_iff_exists.mp
    (List.getLast?_isSome.mpr (List.ne_nil_of_mem hmem))
  have hr' := List.mem_of_getLast? hr
  have hoccurs := ((mem_reported_iff_tried hne).mp hr').2
  have hstart : r.start = m.start :=
    Nat.le_antisymm (hm.last r hoccurs (hreported r hr')) (start_le_of_getLast? hne hr hmem)
  have hread := hoccurs.mentionAt?_eq
  rw [hstart, hm.occurs.mentionAt?_eq] at hread
  rw [hr, hread]

theorem Mention.isLast_of_places (hne : name ≠ []) (hread : mentionAt? text name m.start = some m)
    (hnamed : occursAt text name m.start text.size = true) (halone : m.StandsAlone text)
    (hplaces : ∀ i < text.size, occursAt text name i text.size = true → i ≤ m.start) :
    m.IsLast text name := by
  refine ⟨(occurs_of_mentionAt? hnamed hread).2, halone, fun other hother _ => ?_⟩
  exact hplaces other.start (lt_of_occursAt hne hother.named) hother.named

end Guess

/-- Without earlier guesses the guess is the type of the last reported mention. A mention is
reported where no name tried before was read across it, whatever stands before its name; of those
whose name stands alone just those are passed over that begin with the type of a reported one. So if
the reported mentions stand alone and none has the variable itself as its type, then there is a
guess just where a mention stands alone, and it is the type of the last one. -/
theorem guess_is_type_of_last_reported (v : Identifier) (text : String) :
    let chars := text.toList.toArray
    let guessed := (({} : TypeGuesses).guess v.text text).1
    guessed = (reported chars v.chars).getLast?.map (Mention.typeText chars) ∧
    (∀ m, m ∈ reported chars v.chars ↔ m.Occurs chars v.chars ∧
      ∀ place ∈ tried chars v.chars, place < m.start → reach chars v.chars place ≤ m.start) ∧
    (∀ m : Mention, m.Occurs chars v.chars → m.StandsAlone chars →
      (m ∈ reported chars v.chars ↔ ∀ r ∈ reported chars v.chars, r.type.start ≠ m.start)) ∧
    ((∀ r ∈ reported chars v.chars, r.StandsAlone chars ∧ r.typeText chars ≠ v.text) →
      (guessed.isSome ↔ ∃ m : Mention, m.Occurs chars v.chars ∧ m.StandsAlone chars) ∧
      ∀ m : Mention, m.IsLast chars v.chars → guessed = some (m.typeText chars)) := by
  intro chars guessed
  have hchars : v.text.toList = v.chars := by simp [Identifier.text]
  have hne : v.text ≠ "" := by
    intro heq
    rw [heq] at hchars
    exact v.nonempty hchars.symm
  have hguessed : guessed = (reported chars v.chars).getLast?.map (Mention.typeText chars) := by
    rw [← hchars, ← mentioned?_eq hne, ← guess_of_new hne]
  refine ⟨hguessed, fun m => ?_, fun m => ?_, fun hreported => ?_⟩
  · rw [mem_reported_iff_tried v.nonempty, mem_tried_iff v.nonempty]
    constructor
    · rintro ⟨⟨-, hhidden⟩, hoccurs⟩
      exact ⟨hoccurs, hhidden⟩
    · rintro ⟨hoccurs, hhidden⟩
      exact ⟨⟨hoccurs.named, hhidden⟩, hoccurs⟩
  · exact mem_reported_iff_of_standsAlone v.nonempty v.isName
  · have hmem := fun m => mem_reported_of_standsAlone (m := m) v.nonempty v.isName
      fun r hr => (hreported r hr).2
    rw [hguessed, Option.isSome_map]
    refine ⟨⟨fun hsome => ?_, ?_⟩, fun m hm => ?_⟩
    · obtain ⟨r, hr⟩ := Option.isSome_iff_exists.mp hsome
      have hr' := List.mem_of_getLast? hr
      exact ⟨r, ((mem_reported_iff_tried v.nonempty).mp hr').2, (hreported r hr').1⟩
    · rintro ⟨m, hoccurs, halone⟩
      exact List.getLast?_isSome.mpr (List.ne_nil_of_mem (hmem m hoccurs halone))
    · rw [hm.getLast?_eq v.nonempty (hmem m hm.occurs hm.alone) fun r hr => (hreported r hr).1]
      rfl

def label : Identifier where
  chars := "label".toList

def labelSource : String := "label = Title()\nlabel: Caption"

theorem guess_is_type_of_last_mention_of_label :
    reported labelSource.toList.toArray label.chars = [⟨0, 6, ⟨8, 13⟩⟩, ⟨16, 21, ⟨23, 30⟩⟩] ∧
      (({} : TypeGuesses).guess label.text labelSource).1 = some "Caption" := by
  have hreported : reported labelSource.toList.toArray label.chars =
      [⟨0, 6, ⟨8, 13⟩⟩, ⟨16, 21, ⟨23, 30⟩⟩] := by decide +kernel
  have halone : Mention.StandsAlone labelSource.toList.toArray ⟨16, 21, ⟨23, 30⟩⟩ := by
    intro i hi
    obtain rfl : i = 15 := Nat.succ.inj hi
    decide +kernel
  have hlast : Mention.IsLast labelSource.toList.toArray label.chars ⟨16, 21, ⟨23, 30⟩⟩ :=
    Mention.isLast_of_places label.nonempty (by decide +kernel) (by decide +kernel) halone
      (by decide +kernel)
  obtain ⟨-, -, -, hguess⟩ := guess_is_type_of_last_reported label labelSource
  rw [hreported, List.forall_mem_cons, List.forall_mem_singleton] at hguess
  obtain ⟨-, hguessed⟩ := hguess ⟨⟨fun i hi => absurd hi (Nat.succ_ne_zero i), by decide +kernel⟩,
    halone, by decide +kernel⟩
  refine ⟨hreported, ?_⟩
  rw [hguessed _ hlast]
  decide +kernel

def otherSource : String := "mylabel = Foo"

/-- A text whose second mention begins with the type of the first one. -/
def ownTypeSource : String := "Foo: Foo = Bar"

theorem longer_names_and_own_types_mislead :
    ((({} : TypeGuesses).guess label.text otherSource).1 = some "Foo" ∧
      ¬∃ m : Mention, m.Occurs otherSource.toList.toArray label.chars ∧
        m.StandsAlone otherSource.toList.toArray) ∧
    (({} : TypeGuesses).guess "Foo" ownTypeSource).1 = some "Foo" ∧
      ∃ m : Mention, m.IsLast ownTypeSource.toList.toArray "Foo".toList ∧
        m.typeText ownTypeSource.toList.toArray = "Bar" := by
  refine ⟨⟨by decide +kernel, ?_⟩, by decide +kernel, ⟨5, 9, ⟨11, 14⟩⟩, ?_, by decide +kernel⟩
  · rintro ⟨m, hoccurs, halone⟩
    have hplaces : ∀ i < otherSource.toList.toArray.size, occursAt otherSource.toList.toArray
        label.chars i otherSource.toList.toArray.size = true → i = 2 := by decide +kernel
    have hstart := hplaces m.start (lt_of_occursAt label.nonempty hoccurs.named) hoccurs.named
    have hbefore := halone 1 (by rw [hstart])
    exact absurd hbefore (by decide +kernel)
  · have halone : Mention.StandsAlone ownTypeSource.toList.toArray ⟨5, 9, ⟨11, 14⟩⟩ := by
      intro i hi
      obtain rfl : i = 4 := Nat.succ.inj hi
      decide +kernel
    exact Mention.isLast_of_places (by decide) (by decide +kernel) (by decide +kernel) halone
      (by decide +kernel)

end TypeGuesses
end Autocomplete
