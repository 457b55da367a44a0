import Autocomplete.Snippet

/-!
# The tab stops of a snippet

A snippet consists of plain text and of tab stops, which are written `$n`, `${n}` or `${n:name}`.
The characters that mark tab stops do not occur otherwise, so the numbers are those written after
the dollar signs, and a snippet has no other ones.
-/

namespace Autocomplete
namespace Snippet

open Text

/-- The characters that mark tab stops, and the one that escapes them. -/
def marks : List Char := ['$', '\\', '{', '}']

def Plain (cs : List Char) : Prop := ∀ c ∈ cs, c ∉ marks

instance (cs : List Char) : Decidable (Plain cs) := List.decidableBAll (· ∉ marks) cs

/-- The characters are plain text and tab stops with the given numbers. A bare number is not
followed by a digit. -/
inductive TabStops : List Char → List Nat → Prop
  | nil : TabStops [] []
  | plain {c : Char} {rest : List Char} {numbers : List Nat} (unmarked : c ∉ marks)
      (later : TabStops rest numbers) : TabStops (c :: rest) numbers
  | bare {n : Nat} {rest : List Char} {numbers : List Nat}
      (apart : rest.head?.any Char.isDigit = false) (later : TabStops rest numbers) :
      TabStops ('$' :: (Nat.toDigits 10 n ++ rest)) (n :: numbers)
  | braced {n : Nat} {rest : List Char} {numbers : List Nat} (later : TabStops rest numbers) :
      TabStops ('$' :: '{' :: (Nat.toDigits 10 n ++ '}' :: rest)) (n :: numbers)
  | named {n : Nat} {name rest : List Char} {numbers : List Nat} (nonempty : name ≠ [])
      (unmarked : Plain name) (later : TabStops rest numbers) :
      TabStops ('$' :: '{' :: (Nat.toDigits 10 n ++ ':' :: (name ++ '}' :: rest)))
        (n :: numbers)

/-- The tab stops of the snippet are numbered from one on, without gaps and repetitions. -/
def WellNumbered (snippet : String) : Prop :=
  ∃ count, 1 ≤ count ∧
    ∀ numbers, TabStops snippet.toList numbers ↔ numbers = List.range' 1 count

section Plain

variable {cs rest : List Char} {numbers : List Nat}

theorem plain_of_all {p : Char → Bool} (hmarks : marks.all (!p ·) = true)
    (h : ∀ c ∈ cs, p c = true) : Plain cs := by
  intro c hc hmark
  have hnot : p c = false := by simpa using List.all_eq_true.mp hmarks c hmark
  exact absurd (h c hc) (by simp [hnot])

theorem Plain.append {front : List Char} (hfront : Plain front) (h : Plain cs) :
    Plain (front ++ cs) := by
  intro c hc
  rcases List.mem_append.mp hc with hc | hc
  · exact hfront c hc
  · exact h c hc

theorem TabStops.plain_append (h : Plain cs) (later : TabStops rest numbers) :
    TabStops (cs ++ rest) numbers := by
  induction cs with
  | nil => exact later
  | cons c cs ih =>
    have hcs : Plain cs := fun d hd => h d (List.mem_cons_of_mem c hd)
    exact .plain (h c List.mem_cons_self) (ih hcs)

end Plain

/-! ### The numbers of a snippet -/

def firstNumber (cs : List Char) : Nat :=
  Nat.ofDigitChars 10 ((cs.dropWhile (!·.isDigit)).takeWhile (·.isDigit)) 0

def numbersIn : List Char → List Nat
  | [] => []
  | c :: rest => if c = '$' then firstNumber rest :: numbersIn rest else numbersIn rest

section Numbers

variable {cs rest : List Char} {n : Nat}

theorem isDigit_of_mem_toDigits {c : Char} (h : c ∈ Nat.toDigits 10 n) : c.isDigit = true :=
  Nat.isDigit_of_mem_toDigits (by decide) (by decide) h

theorem firstNumber_cons_of_not_isDigit {c : Char} (h : c.isDigit = false) :
    firstNumber (c :: rest) = firstNumber rest := by
  simp [firstNumber, h]

theorem firstNumber_toDigits_append (h : rest.head?.any Char.isDigit = false) :
    firstNumber (Nat.toDigits 10 n ++ rest) = n := by
  have hdrop : (Nat.toDigits 10 n ++ rest).dropWhile (!·.isDigit) = Nat.toDigits 10 n ++ rest := by
    obtain ⟨c, cs, hdigits⟩ := List.exists_cons_of_ne_nil (Nat.toDigits_ne_nil (n := n) (b := 10))
    have hc : c.isDigit = true := isDigit_of_mem_toDigits (hdigits ▸ List.mem_cons_self)
    simp [hdigits, hc]
  have htake : (Nat.toDigits 10 n ++ rest).takeWhile (·.isDigit) = Nat.toDigits 10 n := by
    rw [List.takeWhile_append_of_pos fun c => isDigit_of_mem_toDigits]
    cases rest with
    | nil => simp
    | cons c rest =>
      have hc : c.isDigit = false := by simpa using h
      simp [hc]
  rw [firstNumber, hdrop, htake, Nat.ofDigitChars_toDigits (by decide) (by decide)]

theorem numbersIn_append (h : '$' ∉ cs) : numbersIn (cs ++ rest) = numbersIn rest := by
  induction cs with
  | nil => rfl
  | cons c cs ih =>
    rw [List.mem_cons, not_or] at h
    rw [List.cons_append, numbersIn, if_neg (Ne.symm h.1), ih h.2]

theorem dollar_not_mem_toDigits : '$' ∉ Nat.toDigits 10 n :=
  fun h => absurd (isDigit_of_mem_toDigits h) (by decide)

theorem Plain.dollar_not_mem (h : Plain cs) : '$' ∉ cs :=
  fun hmem => h '$' hmem (by decide)

/-- Tab stops are numbered by the numbers after the dollar signs. -/
theorem TabStops.eq_numbersIn {numbers : List Nat} (h : TabStops cs numbers) :
    numbers = numbersIn cs := by
  induction h with
  | nil => rfl
  | @plain c rest numbers unmarked later ih =>
    have hc : c ≠ '$' := by
      rintro rfl
      exact unmarked (by decide)
    rw [numbersIn, if_neg hc, ih]
  -- After a dollar sign come digits and plain text only, in which there is no other dollar sign.
  | bare apart later ih =>
    rw [numbersIn, if_pos rfl, firstNumber_toDigits_append apart,
      numbersIn_append dollar_not_mem_toDigits, ih]
  | braced later ih =>
    rw [numbersIn, if_pos rfl, firstNumber_cons_of_not_isDigit (by decide),
      firstNumber_toDigits_append (by simp), numbersIn, if_neg (by decide),
      numbersIn_append dollar_not_mem_toDigits, numbersIn, if_neg (by decide), ih]
  | named nonempty unmarked later ih =>
    rw [numbersIn, if_pos rfl, firstNumber_cons_of_not_isDigit (by decide),
      firstNumber_toDigits_append (by simp), numbersIn, if_neg (by decide),
      numbersIn_append dollar_not_mem_toDigits, numbersIn, if_neg (by decide),
      numbersIn_append unmarked.dollar_not_mem, numbersIn, if_neg (by decide), ih]

theorem TabStops.unique {numbers others : List Nat} (h : TabStops cs numbers)
    (h' : TabStops cs others) : numbers = others :=
  h.eq_numbersIn.trans h'.eq_numbersIn.symm

end Numbers

/-- Tab stops one after the other, where no number runs on into the second text. -/
theorem TabStops.append {cs cs' : List Char} {numbers numbers' : List Nat}
    (h : TabStops cs numbers) (h' : TabStops cs' numbers')
    (hdigit : cs'.head?.any Char.isDigit = false) :
    TabStops (cs ++ cs') (numbers ++ numbers') := by
  induction h with
  | nil => exact h'
  | plain unmarked later ih => exact .plain unmarked ih
  | @bare n rest numbers apart later ih =>
    have hapart : (rest ++ cs').head?.any Char.isDigit = false := by
      cases rest with
      | nil => exact hdigit
      | cons c rest => exact apart
    simpa using TabStops.bare hapart ih
  | braced later ih => simpa using TabStops.braced ih
  | named nonempty unmarked later ih => simpa using TabStops.named nonempty unmarked ih

/-! ### What the snippets are made of -/

/-- The snippet has `count` tab stops, which are numbered from `index` on. -/
def Numbered (index count : Nat) (snippet : String) : Prop :=
  TabStops snippet.toList (List.range' index count)

theorem Numbered.wellNumbered {snippet : String} {count : Nat} (h : Numbered 1 count snippet)
    (hpos : 1 ≤ count) : WellNumbered snippet := by
  refine ⟨count, hpos, fun numbers => ⟨fun h' => h'.unique h, ?_⟩⟩
  rintro rfl
  exact h

section Parts

variable {index count later : Nat} {shown : String}

theorem numbered_empty (index : Nat) : Numbered index 0 "" := .nil

theorem numbered_tabStop (index : Nat) : Numbered index 1 (tabStop index) := by
  simpa [Numbered, tabStop] using TabStops.bare (n := index) rfl .nil

theorem numbered_emptyPlaceholder (index : Nat) : Numbered index 1 (emptyPlaceholder index) := by
  simpa [Numbered, emptyPlaceholder] using TabStops.braced (n := index) .nil

theorem numbered_placeholder (index : Nat) {name : String} (hname : name.toList ≠ [])
    (hplain : Plain name.toList) : Numbered index 1 (placeholder index name) := by
  simpa [Numbered, placeholder] using TabStops.named (n := index) hname hplain .nil

theorem numbered_labeled {label argument : String} (hlabel : Plain label.toList)
    (h : Numbered index count argument) : Numbered index count (labeled label argument) := by
  have hcolon : Plain ": ".toList := by decide
  simpa [Numbered, labeled] using TabStops.plain_append (hlabel.append hcolon) h

/-- Two snippets one after the other, where the second one goes on counting. -/
theorem Numbered.append {next : String} (h : Numbered index count shown)
    (hnext : Numbered (index + count) later next)
    (hdigit : next.toList.head?.any Char.isDigit = false) :
    Numbered index (count + later) (shown ++ next) := by
  have hrange : List.range' index count ++ List.range' (index + count) later =
      List.range' index (count + later) := List.range'_append_1
  rw [Numbered, String.toList_append, ← hrange]
  exact TabStops.append h hnext hdigit

theorem Numbered.comma_append {next : String} (h : Numbered index count next) :
    Numbered index count (", " ++ next) := by
  have hcomma : Plain ", ".toList := by decide
  simpa [Numbered] using TabStops.plain_append hcomma h

theorem Numbered.intercalate_cons {rest : List String} (h : Numbered index count shown)
    (hrest : Numbered (index + count) later (", ".intercalate rest)) :
    Numbered index (count + later) (", ".intercalate (shown :: rest)) := by
  cases rest with
  | nil =>
    -- No arguments have no numbers, so nothing is counted after the last argument.
    have hnone : TabStops [] (List.range' (index + count) later) := by simpa [Numbered] using hrest
    have hempty : List.range' (index + count) later = [] := hnone.unique .nil
    have hlater : later = 0 := by simpa using hempty
    simpa [hlater] using h
  | cons next rest =>
    rw [String.intercalate_cons_cons, String.append_assoc]
    exact h.append hrest.comma_append (by simp)

end Parts

end Snippet
end Autocomplete
