import Autocomplete.Proofs.Scan.Bounds
import Autocomplete.Proofs.Scan.Pieces
import Autocomplete.Proofs.Scan.Places
import Autocomplete.Rules.TypeGuess

/-!
# Mentions of a variable

A mention is the name of a variable, an equals sign or a colon, and the capitalized name of a type.
The rule for mentions looks for the name wherever it stands, at the end of a longer name as well,
and reads each mention to the end of its type before it looks for the next one. A name is tried just
where no name tried before was read across it.
-/

namespace Autocomplete
namespace TypeGuesses

open Scan Text

def isSign (c : Char) : Bool := c == '=' || c == ':'

/-- A place in a text with the sign and the type that belong to it. -/
structure Mention where
  start : Nat
  sign : Nat
  type : Window
  deriving DecidableEq, Repr

namespace Mention

/-- The name, any number of spaces, a sign, any number of spaces and a longest run of name
characters that begins with an uppercase one stand one after the other. -/
structure Occurs (text : Array Char) (name : List Char) (m : Mention) : Prop where
  named : occursAt text name m.start text.size = true
  gap : AllIn text isScanSpace ⟨m.start + name.length, m.sign⟩
  sign : charAtSatisfies text isSign m.sign = true
  laterGap : AllIn text isScanSpace ⟨m.sign + 1, m.type.start⟩
  capital : charAtSatisfies text isUppercase m.type.start = true
  type : AllIn text isNameChar m.type
  whole : charAtSatisfies text isNameChar m.type.stop = false

def typeText (text : Array Char) (m : Mention) : String := String.ofList (m.type.slice text).toList

end Mention

section Reading

variable (text : Array Char) (name : List Char) (start : Nat)

def signAt : Nat := runEnd (charAtSatisfies text isScanSpace) (start + name.length) text.size

/-- The word, possibly empty, after the sign. -/
def typeAt : Window :=
  let first := runEnd (charAtSatisfies text isScanSpace) (signAt text name start + 1) text.size
  ⟨first, runEnd (charAtSatisfies text isNameChar) first text.size⟩

def mentionAt? : Option Mention :=
  if charAtSatisfies text isSign (signAt text name start) &&
      charAtSatisfies text isUppercase (typeAt text name start).start then
    some ⟨start, signAt text name start, typeAt text name start⟩
  else none

/-- How far the rule reads after the name at `start`: to the end of a mention, or else to the part
that is missing. -/
def reach : Nat :=
  if charAtSatisfies text isSign (signAt text name start) then
    if charAtSatisfies text isUppercase (typeAt text name start).start then
      (typeAt text name start).stop
    else (typeAt text name start).start
  else signAt text name start

end Reading

def tried (text : Array Char) (name : List Char) : List Nat :=
  triedPlaces (occursAt text name · text.size) (reach text name) 0 text.size

def reported (text : Array Char) (name : List Char) : List Mention :=
  (tried text name).filterMap (mentionAt? text name)

theorem name_of_uppercase {text : Array Char} {i : Nat}
    (h : charAtSatisfies text isUppercase i = true) : charAtSatisfies text isNameChar i = true :=
  charAtSatisfies_of_imp (fun _ => isNameChar_of_isUppercase) h

theorem not_of_sign {text : Array Char} {p : Char → Bool} (hequals : p '=' = false)
    (hcolon : p ':' = false) {i : Nat} (h : charAtSatisfies text isSign i = true) :
    charAtSatisfies text p i = false := by
  refine not_charAtSatisfies_of_imp (fun c hc => ?_) h
  rw [isSign, Bool.or_eq_true, beq_iff_eq, beq_iff_eq] at hc
  rcases hc with rfl | rfl
  · exact hequals
  · exact hcolon

section Steps

variable (text : Array Char) (before : List Capture) (rest : List Step) (start : Nat)

theorem scan_sign : (Step.oneOfAtStart ["=", ":"]).probe.scan text ⟨start, text.size⟩ =
    if charAtSatisfies text isSign start then .hit ⟨start, start + 1⟩ else .miss start := by
  have hsteps : (Step.oneOfAtStart ["=", ":"]).probe = .oneOfAtStart [['='], [':']] := rfl
  have hoccurs : ∀ c, occursAt text [c] start text.size = (text[start]? == some c) := by
    intro c
    rw [occursAt, occursAt]
    by_cases hlt : start < text.size
    · have hle : start + 1 ≤ text.size := hlt
      rw [decide_eq_true hlt, decide_eq_true hle, Bool.true_and, Bool.and_true]
    · rw [decide_eq_false hlt, Array.getElem?_eq_none (Nat.le_of_not_lt hlt)]
      rfl
  have hsign : charAtSatisfies text isSign start =
      (text[start]? == some '=' || text[start]? == some ':') := by
    rw [charAtSatisfies]
    cases text[start]? <;> rfl
  rw [hsteps, Probe.scan]
  simp only [List.find?_cons, List.find?_nil, hoccurs, hsign]
  cases text[start]? == some '=' <;> cases text[start]? == some ':' <;> rfl

theorem follow_sign : follow (Step.oneOfAtStart ["=", ":"] :: rest) text before ⟨start, text.size⟩ =
    if charAtSatisfies text isSign start then
      ((follow rest text before ⟨start + 1, text.size⟩).1,
        max (follow rest text before ⟨start + 1, text.size⟩).2 (start + 1))
    else ([], start) := by
  have hscan := scan_sign text start
  split
  · rename_i hsign
    have hlt := lt_size_of_charAtSatisfies hsign
    rw [if_pos hsign] at hscan
    have hkept : (Step.oneOfAtStart ["=", ":"]).kept (record (Step.oneOfAtStart ["=", ":"])) text
      ⟨start, start + 1⟩ = [] := rfl
    rw [follow_cons, Step.attempts_of_not_looping rfl hlt, Step.attempt_of_hit _ _ hscan, hkept,
      List.append_nil]
    rfl
  · rename_i hsign
    rw [if_neg hsign] at hscan
    by_cases hlt : start < text.size
    · rw [follow_cons, Step.attempts_of_not_looping rfl hlt, Step.attempt_of_miss _ _ hscan]
    · rw [follow_cons, Step.attempts_of_isEmpty (Nat.le_of_not_lt hlt)]

theorem capitalized_eq_name (h : charAtSatisfies text isUppercase start = true) :
    (fun i => charAtSatisfies text (CharKind.capitalized.accepts (i == start)) i) =
      charAtSatisfies text isNameChar := by
  funext i
  by_cases hi : i = start
  · subst hi
    have hfirst : charAtSatisfies text (CharKind.capitalized.accepts (i == i)) i = true := by
      rw [beq_self_eq_true]
      exact h
    rw [hfirst, name_of_uppercase h]
  · rw [beq_eq_false_iff_ne.mpr hi]
    rfl

theorem follow_capitalized :
    follow [Step.capitalizedWord.saving] text before ⟨start, text.size⟩ =
      if charAtSatisfies text isUppercase start then
        ([before ++ [Window.captured
            ⟨start, runEnd (charAtSatisfies text isNameChar) start text.size⟩ text]],
          runEnd (charAtSatisfies text isNameChar) start text.size)
      else ([], start) := by
  by_cases hlt : start < text.size
  · rw [follow_cons, Step.attempts_of_not_looping rfl hlt]
    split
    · rename_i hcapital
      have hne : runEnd (charAtSatisfies text isNameChar) start text.size ≠ start := by
        intro heq
        have hnot := not_runEnd (heq ▸ hlt)
        rw [heq, name_of_uppercase hcapital] at hnot
        exact Bool.noConfusion hnot
      have hscan : Step.capitalizedWord.saving.probe.scan text ⟨start, text.size⟩ =
          .hit ⟨start, runEnd (charAtSatisfies text isNameChar) start text.size⟩ := by
        simp [Step.capitalizedWord, Step.run, Step.plain, Step.saving, Probe.scan,
          capitalized_eq_name text start hcapital, hne]
      rw [Step.attempt_of_hit _ _ hscan, follow_nil]
      simp only [Step.windowAfter, Step.capitalizedWord, Step.run, Step.plain, Step.saving,
        Bool.false_eq_true, if_false, Nat.max_self]
      rfl
    · rename_i hsmall
      have hend : runEnd
          (fun i => charAtSatisfies text (CharKind.capitalized.accepts (i == start)) i)
          start text.size = start := by
        apply runEnd_unique (Nat.le_refl start) (Nat.le_of_lt hlt) (fun i hle hi => by omega)
        intro _
        rw [beq_self_eq_true]
        exact Bool.eq_false_iff.mpr hsmall
      have hscan : Step.capitalizedWord.saving.probe.scan text ⟨start, text.size⟩ =
          .miss start := by
        simp [Step.capitalizedWord, Step.run, Step.plain, Step.saving, Probe.scan, hend]
      rw [Step.attempt_of_miss _ _ hscan]
  · have hsmall : ¬charAtSatisfies text isUppercase start = true :=
      fun hcapital => hlt (lt_size_of_charAtSatisfies hcapital)
    rw [follow_cons, Step.attempts_of_isEmpty (Nat.le_of_not_lt hlt), if_neg hsmall]

end Steps

section Reading

variable {text : Array Char} {name : List Char} {start : Nat} {m : Mention}

theorem le_signAt (text : Array Char) (name : List Char) (start : Nat) :
    start + name.length ≤ signAt text name start :=
  le_runEnd _ _ _

theorem lt_typeAt_start (text : Array Char) (name : List Char) (start : Nat) :
    signAt text name start < (typeAt text name start).start :=
  le_runEnd _ _ _

theorem typeAt_le (text : Array Char) (name : List Char) (start : Nat) :
    (typeAt text name start).start ≤ (typeAt text name start).stop :=
  le_runEnd _ _ _

theorem le_reach (text : Array Char) (name : List Char) (start : Nat) :
    start + name.length ≤ reach text name start := by
  have hsign := le_signAt text name start
  have hfirst := lt_typeAt_start text name start
  have hlast := typeAt_le text name start
  unfold reach
  split
  · split <;> omega
  · exact hsign

/-- What the rule does after a name: it finds the mention there, if it is one, and goes on from the
place up to which it has read. -/
theorem follow_mention (v : String)
    (h : occursAt text v.toList start text.size = true) :
    follow (mention v).tail text [] ⟨start + v.toList.length, text.size⟩ =
      ((mentionAt? text v.toList start).toList.map fun m => [m.type.captured text],
        reach text v.toList start) := by
  have hsteps : (mention v).tail = [Step.spaces, Step.oneOfAtStart ["=", ":"], Step.spaces,
    Step.capitalizedWord.saving] := rfl
  have hsign : runEnd (charAtSatisfies text isScanSpace) (start + v.toList.length)
    text.size = signAt text v.toList start := rfl
  have hfirst : runEnd (charAtSatisfies text isScanSpace) (signAt text v.toList start + 1)
    text.size = (typeAt text v.toList start).start := rfl
  have hlast : runEnd (charAtSatisfies text isNameChar) (typeAt text v.toList start).start
    text.size = (typeAt text v.toList start).stop := rfl
  have hlt := lt_typeAt_start text v.toList start
  have hle := typeAt_le text v.toList start
  rw [hsteps, follow_spaces text [] _ _ (add_length_le_of_occursAt h) hsign, follow_sign]
  unfold mentionAt? reach
  split
  · rename_i hsigned
    have hinside := lt_size_of_charAtSatisfies hsigned
    rw [follow_spaces text [] _ _ hinside hfirst, follow_capitalized, hlast]
    split
    · rename_i hcapital
      simp [hsigned, hcapital]
      omega
    · rename_i hsmall
      simp [hsmall]
      omega
  · rename_i hunsigned
    simp [hunsigned]

theorem searchAll_mention (v : String) (hne : v ≠ "") (text : Array Char) :
    searchAll (mention v) text =
      (reported text v.toList).map fun m => [m.type.captured text] := by
  have hsteps : mention v =
    ({ probe := .literal v.toList } : Step).repeating :: (mention v).tail := rfl
  have hnonempty : v.toList ≠ [] := by simpa using hne
  rw [searchAll, hsteps]
  exact search_literal hnonempty (fun _ hplace => follow_mention v hplace)
    (fun place _ => Nat.max_eq_left (le_reach text v.toList place))

theorem occurs_of_mentionAt? (hname : occursAt text name start text.size = true)
    (h : mentionAt? text name start = some m) : m.start = start ∧ m.Occurs text name := by
  unfold mentionAt? at h
  split at h
  · rename_i hread
    obtain ⟨hsign, hcapital⟩ := Bool.and_eq_true_iff.mp hread
    obtain rfl := Option.some.inj h
    have hsigned : signAt text name start + 1 ≤ text.size := lt_size_of_charAtSatisfies hsign
    have hfirst : (typeAt text name start).start ≤ text.size :=
      Nat.le_of_lt (lt_size_of_charAtSatisfies hcapital)
    exact ⟨rfl, hname, allIn_runEnd (add_length_le_of_occursAt hname), hsign, allIn_runEnd hsigned,
      hcapital, allIn_runEnd hfirst, charAtSatisfies_runEnd⟩
  · simp at h

theorem Mention.Occurs.nonempty (h : m.Occurs text name) : m.type.start < m.type.stop := by
  apply Nat.lt_of_le_of_ne h.type.1
  intro heq
  have hname := name_of_uppercase h.capital
  rw [heq, h.whole] at hname
  exact Bool.noConfusion hname

theorem Mention.Occurs.mentionAt?_eq (h : m.Occurs text name) :
    mentionAt? text name m.start = some m := by
  have hsign : signAt text name m.start = m.sign :=
    h.gap.runEnd_eq (not_of_sign rfl rfl h.sign) (Nat.le_of_lt (lt_size_of_charAtSatisfies h.sign))
  have hfirst := h.laterGap.runEnd_eq
    (not_space_of_charAtSatisfies (name_of_uppercase h.capital))
    (Nat.le_of_lt (lt_size_of_charAtSatisfies h.capital))
  have htype : typeAt text name m.start = m.type := by
    rw [typeAt, hsign, hfirst, h.type.runEnd_eq h.whole (h.type.stop_le_size h.nonempty)]
  rw [mentionAt?, hsign, htype, h.sign, h.capital]
  rfl

theorem reach_of_mentionAt? (h : mentionAt? text name start = some m) :
    reach text name start = m.type.stop := by
  unfold mentionAt? at h
  split at h
  · rename_i hread
    obtain ⟨hsign, hcapital⟩ := Bool.and_eq_true_iff.mp hread
    obtain rfl := Option.some.inj h
    rw [reach, if_pos hsign, if_pos hcapital]
  · simp at h

theorem lt_reach (hne : name ≠ []) (text : Array Char) (place : Nat) :
    place < reach text name place := by
  have hlength := List.length_pos_iff.mpr hne
  have hreach := le_reach text name place
  omega

/-- A name is tried just where no name tried before it was read across it. -/
theorem mem_tried_iff (hne : name ≠ []) {place : Nat} :
    place ∈ tried text name ↔ occursAt text name place text.size = true ∧
      ∀ earlier ∈ tried text name, earlier < place → reach text name earlier ≤ place :=
  mem_triedPlaces_literal_iff hne fun place _ => le_reach text name place

theorem mem_reported_iff_tried (hne : name ≠ []) :
    m ∈ reported text name ↔ m.start ∈ tried text name ∧ m.Occurs text name := by
  rw [reported, List.mem_filterMap]
  constructor
  · rintro ⟨place, hplace, hm⟩
    obtain ⟨rfl, hoccurs⟩ := occurs_of_mentionAt? ((mem_tried_iff hne).mp hplace).1 hm
    exact ⟨hplace, hoccurs⟩
  · rintro ⟨hplace, hoccurs⟩
    exact ⟨m.start, hplace, hoccurs.mentionAt?_eq⟩

theorem pairwise_reported (hne : name ≠ []) :
    (reported text name).Pairwise fun m m' => m.start < m'.start := by
  rw [reported, List.pairwise_filterMap]
  have htried : (tried text name).Pairwise (· < ·) :=
    pairwise_triedPlaces fun pos _ => lt_reach hne text pos
  refine htried.imp_of_mem ?_
  intro place place' hplace hplace' hlt m hm m' hm'
  obtain ⟨rfl, -⟩ := occurs_of_mentionAt? ((mem_tried_iff hne).mp hplace).1 hm
  obtain ⟨rfl, -⟩ := occurs_of_mentionAt? ((mem_tried_iff hne).mp hplace').1 hm'
  exact hlt

end Reading

end TypeGuesses
end Autocomplete
