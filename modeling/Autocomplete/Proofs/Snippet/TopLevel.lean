import Autocomplete.Proofs.Snippet.Arguments
import Autocomplete.Proofs.Text.Lines

/-!
# The parameters of a list

The commas of a parameter list that lie outside of all brackets stand between its parameters; any
other comma belongs to the type of a parameter. The arguments of a call begin with the one of each
parameter, which the words in front of its colon decide. But the list is cut off at all commas, so
every comma inside of brackets adds an argument that belongs to no parameter.
-/

namespace Autocomplete
namespace Snippet

open Text

/-- As many brackets of either kind are closed as are opened. -/
def AllClosed (front : List Char) : Prop :=
  front.count '(' = front.count ')' ∧ front.count '[' = front.count ']'

instance (front : List Char) : Decidable (AllClosed front) := inferInstanceAs (Decidable (_ ∧ _))

/-- The pieces between the commas that lie outside of all brackets, where `front` is what was read
before, last character first. -/
def topLevelAfter (front : List Char) : List Char → List (List Char)
  | [] => [[]]
  | c :: rest =>
    if c = ',' ∧ AllClosed front then [] :: topLevelAfter (c :: front) rest
    else (topLevelAfter (c :: front) rest).modifyHead (c :: ·)

/-- The parameters of a list. -/
def topLevel (parameters : List Char) : List (List Char) := topLevelAfter [] parameters

theorem topLevelAfter_ne_nil (front cs : List Char) : topLevelAfter front cs ≠ [] := by
  cases cs with
  | nil => exact List.cons_ne_nil _ _
  | cons c rest =>
    rw [topLevelAfter]
    split
    · exact List.cons_ne_nil _ _
    · have hrest := topLevelAfter_ne_nil (c :: front) rest
      simpa using hrest

/-- What is cut off at every comma are the parameters, each one cut off at its own commas. -/
theorem splitOn_eq_flatMap_topLevelAfter (front cs : List Char) :
    cs.splitOn ',' = (topLevelAfter front cs).flatMap (·.splitOn ',') := by
  induction cs generalizing front with
  | nil => rfl
  | cons c rest ih =>
    obtain ⟨p, ps, htops⟩ := List.exists_cons_of_ne_nil (topLevelAfter_ne_nil (c :: front) rest)
    have hrest := ih (c :: front)
    rw [htops, List.flatMap_cons] at hrest
    rw [topLevelAfter, htops]
    split
    · rename_i hcomma
      rw [List.splitOn_cons_eq_if_modifyHead, if_pos (beq_iff_eq.mpr hcomma.1), hrest]
      rfl
    · rw [List.modifyHead_cons, List.flatMap_cons, List.splitOn_cons_eq_if_modifyHead,
        List.splitOn_cons_eq_if_modifyHead, hrest]
      split
      · rfl
      · obtain ⟨first, pieces, hpieces⟩ := List.exists_cons_of_ne_nil (List.splitOn_ne_nil ',' p)
        rw [hpieces]
        rfl

theorem length_splitOn (x : Char) (cs : List Char) :
    (cs.splitOn x).length = cs.count x + 1 := by
  induction cs with
  | nil => rfl
  | cons c rest ih =>
    rw [List.splitOn_cons_eq_if_modifyHead, List.count_cons]
    split <;> simp [ih]

/-! ### The words in front of a colon -/

/-- The text consists of the words with blanks between them, and perhaps before and after. -/
inductive SpacedWords : List (List Char) → List Char → Prop
  | nil : SpacedWords [] []
  | blank {c : Char} {words : List (List Char)} {cs : List Char} (hc : isBlank c = true)
      (later : SpacedWords words cs) : SpacedWords words (c :: cs)
  | word {w : List Char} {words : List (List Char)} {cs : List Char} (nonempty : w ≠ [])
      (isWord : w.all isWideWordChar = true) (apart : cs.head?.any isWideWordChar = false)
      (later : SpacedWords words cs) : SpacedWords (w :: words) (w ++ cs)

section Words

variable {words : List (List Char)} {cs : List Char}

theorem SpacedWords.all_isPart (h : SpacedWords words cs) :
    ∀ c ∈ cs, (isWideWordChar c || isBlank c) = true := by
  induction h with
  | nil => exact fun c hc => absurd hc List.not_mem_nil
  | blank hc later ih =>
    rw [List.forall_mem_cons]
    exact ⟨by simp [hc], ih⟩
  | word nonempty isWord apart later ih =>
    rw [List.forall_mem_append]
    exact ⟨fun c hc => by simp [List.all_eq_true.mp isWord c hc], ih⟩

/-- Cut off at the blanks, the text leaves the words behind. -/
theorem SpacedWords.filter_splitOnP (h : SpacedWords words cs) :
    (cs.splitOnP isBlank).filter (!·.isEmpty) = words := by
  induction h with
  | nil => rfl
  | blank hc later ih =>
    rw [List.splitOnP_cons_eq_if_modifyHead, if_pos hc, List.filter_cons_of_neg (by simp), ih]
  | @word w words cs nonempty isWord apart later ih =>
    have hblank : ∀ c ∈ w, isBlank c = false :=
      fun c hc => isBlank_of_isWideWordChar (List.all_eq_true.mp isWord c hc)
    cases cs with
    | nil =>
      obtain rfl : words = [] := by simpa using ih.symm
      rw [List.append_nil, List.splitOnP_eq_singleton hblank,
        List.filter_cons_of_pos (by simpa using nonempty), List.filter_nil]
    | cons c cs =>
      -- What follows a word and goes on with no word character goes on with a blank.
      have hc : isBlank c = true := by
        have hpart := later.all_isPart c List.mem_cons_self
        rw [List.head?_cons, Option.any_some] at apart
        simpa [apart] using hpart
      rw [List.splitOnP_cons_eq_if_modifyHead, if_pos hc, List.filter_cons_of_neg (by simp)] at ih
      rw [List.splitOnP_append_cons_of_forall_mem hblank c hc,
        List.filter_cons_of_pos (by simpa using nonempty), ih]

theorem SpacedWords.words?_eq (h : SpacedWords words cs) (type : List Char) :
    Parameter.words? (cs ++ ':' :: type) = some words := by
  have hcolon : (isWideWordChar ':' || isBlank ':') = false := by decide +kernel
  have htake : (cs ++ ':' :: type).takeWhile (fun c => isWideWordChar c || isBlank c) = cs := by
    rw [List.takeWhile_append_of_pos h.all_isPart, List.takeWhile_cons_of_neg (by simp [hcolon]),
      List.append_nil]
  have hdrop : (cs ++ ':' :: type).dropWhile (fun c => isWideWordChar c || isBlank c) =
      ':' :: type := by
    rw [List.dropWhile_append_of_pos h.all_isPart, List.dropWhile_cons_of_neg (by simp [hcolon])]
  unfold Parameter.words?
  simp only [hdrop, htake, h.filter_splitOnP]

theorem SpacedWords.parse?_eq {name : List Char} (h : SpacedWords (words ++ [name]) cs)
    (type : List Char) :
    Parameter.parse? (cs ++ ':' :: type) =
      some ⟨String.ofList (words.getLast?.getD name), String.ofList name⟩ := by
  rw [Parameter.parse?, h.words?_eq type]
  rcases List.eq_nil_or_concat words with rfl | ⟨earlier, label, rfl⟩
  · rfl
  · simp

/-- What stands behind a comma does not matter, because a comma is no part of the words. -/
theorem words?_append_comma (first more : List Char) :
    Parameter.words? (first ++ ',' :: more) = Parameter.words? first := by
  have hcomma : (isWideWordChar ',' || isBlank ',') = false := by decide +kernel
  have hsplit := List.takeWhile_append_dropWhile
    (p := fun c => isWideWordChar c || isBlank c) (l := first)
  unfold Parameter.words?
  dsimp only
  rw [List.dropWhile_append, List.takeWhile_append]
  cases hdrop : first.dropWhile (fun c => isWideWordChar c || isBlank c) with
  | nil =>
    rw [if_pos List.isEmpty_nil, List.dropWhile_cons_of_neg (by simp [hcomma])]
    simp
  | cons c rest =>
    have hshort : (first.takeWhile fun c => isWideWordChar c || isBlank c).length ≠
        first.length := by
      have hlength := congrArg List.length hsplit
      rw [hdrop, List.length_append, List.length_cons] at hlength
      omega
    rw [if_neg (by simp), if_neg hshort]
    by_cases hc : c = ':'
    · subst hc
      rfl
    · simp [hc]

theorem parse?_of_splitOn {p first : List Char} {strays : List (List Char)}
    (h : p.splitOn ',' = first :: strays) : Parameter.parse? first = Parameter.parse? p := by
  have hjoined : [','].intercalate (p.splitOn ',') = p := List.intercalate_splitOn ','
  rw [h] at hjoined
  cases strays with
  | nil => rw [← hjoined, List.intercalate_singleton]
  | cons next strays =>
    rw [List.intercalate_cons_cons, List.append_assoc, List.singleton_append] at hjoined
    rw [← hjoined, Parameter.parse?, Parameter.parse?, words?_append_comma]

end Words

/-! ### The arguments of a parameter -/

def argument (firstOfFunction : Bool) (index : Nat) (p : List Char) : String :=
  match Parameter.parse? p with
  | none => tabStop index
  | some p =>
    if firstOfFunction then placeholder index p.name ++ tabStop (index + 1)
    else labeled p.label (placeholder index p.name)

/-- The number of tab stops in it. -/
def stops (firstOfFunction : Bool) (p : List Char) : Nat :=
  if firstOfFunction && (Parameter.parse? p).isSome then 2 else 1

/-- The arguments that are made of each parameter: its own one, and one for every piece that stands
behind a comma in it. -/
def argumentGroups (firstOfFunction : Bool) (index : Nat) : List (List Char) → List (List String)
  | [] => []
  | p :: rest =>
    let strays := (p.splitOn ',').tail
    let next := index + stops firstOfFunction p
    (argument firstOfFunction index p :: arguments false next strays) ::
      argumentGroups false (next + strays.length) rest

section Arguments

variable (firstOfFunction : Bool) (index : Nat)

theorem arguments_cons (p : List Char) (rest : List (List Char)) :
    arguments firstOfFunction index (p :: rest) = argument firstOfFunction index p ::
      arguments false (index + stops firstOfFunction p) rest := by
  rw [arguments, argument, stops]
  cases Parameter.parse? p with
  | none => simp
  | some p => cases firstOfFunction <;> rfl

theorem stops_false (p : List Char) : stops false p = 1 := rfl

theorem arguments_append (ps qs : List (List Char)) :
    arguments false index (ps ++ qs) =
      arguments false index ps ++ arguments false (index + ps.length) qs := by
  induction ps generalizing index with
  | nil => rfl
  | cons p ps ih =>
    rw [List.cons_append, arguments_cons, arguments_cons, stops_false, ih, List.cons_append,
      List.length_cons, Nat.add_assoc, Nat.add_comm 1]

theorem argument_of_splitOn {p first : List Char} {strays : List (List Char)}
    (h : p.splitOn ',' = first :: strays) :
    argument firstOfFunction index first = argument firstOfFunction index p ∧
      stops firstOfFunction first = stops firstOfFunction p := by
  rw [argument, argument, stops, stops, parse?_of_splitOn h]
  exact ⟨rfl, rfl⟩

theorem flatten_argumentGroups (ps : List (List Char)) :
    (argumentGroups firstOfFunction index ps).flatten =
      arguments firstOfFunction index (ps.flatMap (·.splitOn ',')) := by
  induction ps generalizing firstOfFunction index with
  | nil => rfl
  | cons p rest ih =>
    obtain ⟨first, strays, hpieces⟩ := List.exists_cons_of_ne_nil (List.splitOn_ne_nil ',' p)
    obtain ⟨hargument, hstops⟩ := argument_of_splitOn firstOfFunction index hpieces
    rw [argumentGroups, List.flatMap_cons, hpieces, List.cons_append, arguments_cons, hargument,
      hstops, arguments_append]
    simp [ih]

theorem map_length_argumentGroups (ps : List (List Char)) :
    (argumentGroups firstOfFunction index ps).map List.length =
      ps.map fun p => p.count ',' + 1 := by
  induction ps generalizing firstOfFunction index with
  | nil => rfl
  | cons p rest ih =>
    rw [argumentGroups, List.map_cons, ih, List.map_cons, List.length_cons, length_arguments,
      List.length_tail, length_splitOn, Nat.add_sub_cancel]

theorem length_flatten_argumentGroups (ps : List (List Char)) :
    (argumentGroups firstOfFunction index ps).flatten.length =
      ps.flatten.count ',' + ps.length := by
  rw [List.length_flatten, map_length_argumentGroups]
  induction ps with
  | nil => rfl
  | cons p rest ih =>
    rw [List.map_cons, List.sum_cons, ih, List.flatten_cons, List.count_append, List.length_cons]
    omega

theorem flatten_argumentGroups_of_comma_not_mem {ps : List (List Char)} (h : ∀ p ∈ ps, ',' ∉ p) :
    (argumentGroups firstOfFunction index ps).flatten = arguments firstOfFunction index ps := by
  have hpieces : ∀ p ∈ ps, p.splitOn ',' = [p] := by
    intro p hp
    rw [List.splitOn_eq_splitOnP]
    apply List.splitOnP_eq_singleton
    intro c hc
    rw [beq_eq_false_iff_ne]
    rintro rfl
    exact h p hp hc
  rw [flatten_argumentGroups, List.flatMap_def, List.map_congr_left hpieces, ← List.flatMap_def,
    List.flatMap_singleton']

end Arguments

/-! ### Counting the arguments -/

/-- The arguments of a call in their brackets. -/
def enclosed (args : List String) : String := "(" ++ ", ".intercalate args ++ ")"

section Enclosed

variable {args : List String}

theorem comma_not_mem_argument (firstOfFunction : Bool) (index : Nat) (p : List Char) :
    ',' ∉ (argument firstOfFunction index p).toList := by
  have hdigits : ∀ n, ',' ∉ Nat.toDigits 10 n :=
    fun n hmem => absurd (isDigit_of_mem_toDigits hmem) (by decide)
  unfold argument
  split
  · simp [tabStop, hdigits]
  · rename_i p hparse
    obtain ⟨-, hpart⟩ := isPart_of_parse hparse
    have hcomma : ',' ∉ p.label.toList ++ p.name.toList :=
      fun hmem => absurd (hpart ',' hmem) (by decide +kernel)
    rw [List.mem_append, not_or] at hcomma
    split <;> simp [placeholder, tabStop, labeled, hdigits, hcomma]

theorem comma_not_mem_of_mem_arguments {firstOfFunction : Bool} {index : Nat}
    {ps : List (List Char)} : ∀ a ∈ arguments firstOfFunction index ps, ',' ∉ a.toList := by
  induction ps generalizing firstOfFunction index with
  | nil => exact fun a ha => absurd ha List.not_mem_nil
  | cons p rest ih =>
    rw [arguments_cons, List.forall_mem_cons]
    exact ⟨comma_not_mem_argument firstOfFunction index p, ih⟩

theorem count_comma_intercalate (h : ∀ a ∈ args, ',' ∉ a.toList) :
    (", ".intercalate args).toList.count ',' = args.length - 1 := by
  induction args with
  | nil => rfl
  | cons first rest ih =>
    rw [List.forall_mem_cons] at h
    have hfirst := List.count_eq_zero_of_not_mem h.1
    cases rest with
    | nil => simpa using hfirst
    | cons next rest =>
      rw [String.intercalate_cons_cons, String.toList_append, List.count_append, ih h.2]
      simp [hfirst]
      omega

/-- Arguments without commas can be counted in the call. -/
theorem count_comma_enclosed (h : ∀ a ∈ args, ',' ∉ a.toList) :
    (enclosed args).toList.count ',' = args.length - 1 := by
  have hopening : "(".toList.count ',' = 0 := rfl
  have hclosing : ")".toList.count ',' = 0 := rfl
  rw [enclosed, String.toList_append, String.toList_append, List.count_append, List.count_append,
    hopening, hclosing, count_comma_intercalate h]
  omega

end Enclosed

section Calls

variable {parameters : String} {ofFunction : Bool}

theorem call_eq_enclosed (h : trim parameters.toList ≠ []) :
    call parameters ofFunction =
      enclosed (arguments ofFunction 1 (parameters.toList.splitOn ',')) := by
  rw [call, if_neg h, enclosed]

theorem call_eq_argumentGroups (h : trim parameters.toList ≠ []) :
    call parameters ofFunction =
      enclosed (argumentGroups ofFunction 1 (topLevel parameters.toList)).flatten := by
  rw [call_eq_enclosed h, flatten_argumentGroups, topLevel, ← splitOn_eq_flatMap_topLevelAfter]

theorem call_eq_arguments_topLevel_iff (h : trim parameters.toList ≠ []) :
    call parameters ofFunction =
        enclosed (arguments ofFunction 1 (topLevel parameters.toList)) ↔
      ∀ p ∈ topLevel parameters.toList, ',' ∉ p := by
  rw [call_eq_argumentGroups h]
  constructor
  · intro hsame
    have hcount := congrArg (fun s : String => s.toList.count ',') hsame
    have hgroups := length_flatten_argumentGroups ofFunction 1 (topLevel parameters.toList)
    have hpos : 0 < (topLevel parameters.toList).length :=
      List.length_pos_iff.mpr (topLevelAfter_ne_nil [] parameters.toList)
    rw [flatten_argumentGroups] at hgroups hcount
    rw [count_comma_enclosed comma_not_mem_of_mem_arguments,
      count_comma_enclosed comma_not_mem_of_mem_arguments, hgroups, length_arguments] at hcount
    have hnone : (topLevel parameters.toList).flatten.count ',' = 0 := by omega
    intro p hp hcomma
    exact List.count_eq_zero.mp hnone (List.mem_flatten_of_mem hp hcomma)
  · intro hnone
    rw [flatten_argumentGroups_of_comma_not_mem ofFunction 1 hnone]

end Calls

/-- The arguments of a call are, for each parameter, the one that the words before its colon make,
whatever its type is, and a further one for each comma in its type. So there is exactly one argument
for each parameter just where no brackets have a comma in them. -/
theorem commas_in_brackets_add_arguments (parameters : String) (ofFunction : Bool)
    (h : trim parameters.toList ≠ []) :
    let tops := topLevel parameters.toList
    let groups := argumentGroups ofFunction 1 tops
    call parameters ofFunction = enclosed groups.flatten ∧
      (groups.map List.length = tops.map fun p => p.count ',' + 1) ∧
      (∀ words name cs, SpacedWords (words ++ [name]) cs → ∀ firstOfFunction index type,
        argument firstOfFunction index (cs ++ ':' :: type) =
          if firstOfFunction then
            placeholder index (String.ofList name) ++ tabStop (index + 1)
          else
            labeled (String.ofList (words.getLast?.getD name))
              (placeholder index (String.ofList name))) ∧
      (call parameters ofFunction = enclosed (arguments ofFunction 1 tops) ↔
        ∀ p ∈ tops, ',' ∉ p) := by
  refine ⟨call_eq_argumentGroups h, map_length_argumentGroups ofFunction 1 _, ?_,
    call_eq_arguments_topLevel_iff h⟩
  intro words name cs hwords firstOfFunction index type
  rw [argument, hwords.parse?_eq type]

def handlerList : String := "url: URL, done handler: (Data, [Int]) -> Void"

theorem commas_in_brackets_add_arguments_of_handler :
    trim handlerList.toList ≠ [] ∧
      topLevel handlerList.toList =
        ["url: URL".toList, " done handler: (Data, [Int]) -> Void".toList] ∧
      call handlerList true = enclosed ["${1:url}$2", "done: ${3:handler}", "$4"] := by
  have hblank : trim handlerList.toList ≠ [] := by decide +kernel
  obtain ⟨hcall, -⟩ := commas_in_brackets_add_arguments handlerList true hblank
  refine ⟨hblank, by decide +kernel, hcall.trans ?_⟩
  decide +kernel

/-- A pair is one parameter, and makes two arguments. -/
theorem pair_makes_two_arguments :
    topLevel "a: (Int, Int)".toList = ["a: (Int, Int)".toList] ∧
      enclosed (arguments false 1 (topLevel "a: (Int, Int)".toList)) = "(a: ${1:a})" ∧
      call "a: (Int, Int)" false = "(a: ${1:a}, $2)" := by
  decide +kernel

end Snippet
end Autocomplete
