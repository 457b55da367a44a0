import Autocomplete.Proofs.TypeGuess.LastMention

/-!
# Guesses over many calls

A variable is remembered with the type that was last captured in a call for it. So the answer to a
call is the last of all types captured for its variable, in its own text or in earlier ones. The
rule that is made for a variable has no fault, whatever characters the variable has.
-/

namespace Autocomplete
namespace TypeGuesses

open Scan

structure Call where
  name : String
  text : String

def after (guesses : TypeGuesses) (calls : List Call) : TypeGuesses :=
  calls.foldl (fun guesses c => (guesses.guess c.name c.text).2) guesses

/-- The answer to a call that follows other calls. -/
def answer (before : List Call) (c : Call) : Option String :=
  ((after {} before).guess c.name c.text).1

/-- A guess that fails where the rule for the variable has a fault. -/
def guessChecked (guesses : TypeGuesses) (c : Call) :
    Except Fault (Option String × TypeGuesses) := do
  if c.name = "" then return (none, guesses)
  let rule ← Rule.ofSteps (mention c.name)
  match (rule.findAll c.text).getLast?.bind (Match.text? · 0) with
  | some type => return (some type, guesses.insert c.name type)
  | none => return (guesses[c.name]?, guesses)

/-- What is remembered after some calls, if none of them fails. -/
def afterChecked (guesses : TypeGuesses) : List Call → Except Fault TypeGuesses
  | [] => return guesses
  | c :: rest => do
    let (_, next) ← guesses.guessChecked c
    next.afterChecked rest

def answerChecked (before : List Call) (c : Call) : Except Fault (Option String) := do
  let guesses ← afterChecked {} before
  let (answer, _) ← guesses.guessChecked c
  return answer

def captures (name text : String) : List String :=
  (searchAll (mention name) text.toList.toArray).filterMap (Match.text? · 0)

/-- What is captured for a variable in the calls for it. -/
def captured (name : String) (calls : List Call) : List String :=
  calls.flatMap fun c => if c.name = name then captures name c.text else []

/-! ### One call -/

theorem guessChecked_eq (guesses : TypeGuesses) (c : Call) :
    guesses.guessChecked c = .ok (guesses.guess c.name c.text) := by
  unfold guessChecked guess
  by_cases hname : c.name = ""
  · rw [if_pos hname, if_pos hname]
    rfl
  · have hrule : Rule.ofSteps (mention c.name) = .ok ⟨mention c.name, ruleFault?_mention hname⟩ :=
      Rule.ofSteps_steps ⟨mention c.name, ruleFault?_mention hname⟩
    rw [if_neg hname, if_neg hname, hrule]
    change (match mentioned? c.name c.text with
      | some type => Except.ok (some type, guesses.insert c.name type)
      | none => Except.ok (guesses[c.name]?, guesses)) = _
    cases mentioned? c.name c.text <;> rfl

section Step

variable {name : String} (hne : name ≠ "") (guesses : TypeGuesses)

include hne

theorem mentioned?_eq_getLast? (text : String) :
    mentioned? name text = (captures name text).getLast? := by
  have hcaptures : captures name text = (reported text.toList.toArray name.toList).map
      (Mention.typeText text.toList.toArray) := by
    rw [captures, searchAll_mention name hne, List.filterMap_map, ← List.filterMap_eq_map]
    rfl
  rw [mentioned?_eq hne, hcaptures, List.getLast?_map]

theorem guess_fst (text : String) :
    (guesses.guess name text).1 = (captures name text).getLast?.or guesses[name]? := by
  rw [guess, if_neg hne, mentioned?_eq_getLast? hne]
  cases (captures name text).getLast? <;> rfl

/-- A call changes what is remembered of its own variable, where something is captured for it. -/
theorem getElem?_guess (c : Call) :
    (guesses.guess c.name c.text).2[name]? = (captured name [c]).getLast?.or guesses[name]? := by
  have hcaptured : captured name [c] = if c.name = name then captures name c.text else [] :=
    List.flatMap_singleton _ _
  rw [hcaptured, guess]
  by_cases hname : c.name = name
  · subst hname
    rw [if_neg hne, if_pos rfl, mentioned?_eq_getLast? hne]
    cases (captures c.name c.text).getLast? with
    | none => rfl
    | some type => exact Std.ExtTreeMap.getElem?_insert_self
  · rw [if_neg hname, List.getLast?_nil, Option.none_or]
    split
    · rfl
    · split
      · rw [Std.ExtTreeMap.getElem?_insert, if_neg (by simpa using hname)]
      · rfl

end Step

/-! ### Many calls -/

theorem afterChecked_eq (guesses : TypeGuesses) (calls : List Call) :
    guesses.afterChecked calls = .ok (guesses.after calls) := by
  induction calls generalizing guesses with
  | nil => rfl
  | cons c rest ih =>
    rw [afterChecked, guessChecked_eq]
    exact ih _

theorem captured_append (name : String) (calls later : List Call) :
    captured name (calls ++ later) = captured name calls ++ captured name later :=
  List.flatMap_append

theorem captured_cons (name : String) (c : Call) (rest : List Call) :
    captured name (c :: rest) = captured name [c] ++ captured name rest :=
  captured_append name [c] rest

theorem captured_eq_nil_iff {name : String} {calls : List Call} :
    captured name calls = [] ↔ ∀ c ∈ calls, c.name = name → captures name c.text = [] := by
  simp [captured]

theorem captured_of_ne {name : String} {c : Call} (h : c.name ≠ name) : captured name [c] = [] :=
  captured_eq_nil_iff.mpr fun _ hc heq => absurd (List.mem_singleton.mp hc ▸ heq) h

theorem answerChecked_eq (before : List Call) (c : Call) :
    answerChecked before c = .ok (answer before c) := by
  rw [answerChecked, afterChecked_eq]
  change (guessChecked (after {} before) c >>= fun result => pure result.1) = _
  rw [guessChecked_eq]
  rfl

section Run

variable {name : String} (hne : name ≠ "")

include hne

theorem getElem?_after (guesses : TypeGuesses) (calls : List Call) :
    (guesses.after calls)[name]? = (captured name calls).getLast?.or guesses[name]? := by
  induction calls generalizing guesses with
  | nil => rfl
  | cons c rest ih =>
    have hafter : guesses.after (c :: rest) = (guesses.guess c.name c.text).2.after rest := rfl
    rw [hafter, ih, getElem?_guess hne, captured_cons name c rest, List.getLast?_append,
      Option.or_assoc]

/-- The answer is the last type captured for the variable, in the call or before it. -/
theorem answer_eq (before : List Call) (text : String) :
    answer before ⟨name, text⟩ =
      (captures name text).getLast?.or (captured name before).getLast? := by
  have hempty : ({} : TypeGuesses)[name]? = none := Std.ExtTreeMap.getElem?_empty
  rw [answer, guess_fst hne, getElem?_after hne, hempty, Option.or_none]

end Run

/-- The answer to a call that follows other calls, whatever they are. Where something is captured
for the variable in the call's own text, the last of it is the answer. Else the answer is that of
each earlier call for the variable after which nothing was captured for it, such as the last one in
which something was; it is none if nothing was captured for it before. Calls for other variables or
for the empty one could as well not have been made, and no call fails. -/
theorem guesses_are_remembered (before : List Call) (name text : String) :
    answerChecked before ⟨name, text⟩ = .ok (answer before ⟨name, text⟩) ∧
    (name ≠ "" →
      (∀ type, (captures name text).getLast? = some type →
        answer before ⟨name, text⟩ = some type) ∧
      (captures name text = [] →
        (∀ start earlier between, before = start ++ ⟨name, earlier⟩ :: between →
          (∀ c ∈ between, c.name = name → captures name c.text = []) →
          answer before ⟨name, text⟩ = answer start ⟨name, earlier⟩) ∧
        ((∀ c ∈ before, c.name = name → captures name c.text = []) →
          answer before ⟨name, text⟩ = none))) ∧
    ∀ start c later, before = start ++ c :: later → c.name = "" ∨ c.name ≠ name →
      answer before ⟨name, text⟩ = answer (start ++ later) ⟨name, text⟩ := by
  refine ⟨answerChecked_eq before _, fun hne => ⟨?_, fun hnone => ⟨?_, ?_⟩⟩, ?_⟩
  · intro type htype
    rw [answer_eq hne, htype, Option.some_or]
  · rintro start earlier between rfl hbetween
    have hself : captured name [⟨name, earlier⟩] = captures name earlier := by simp [captured]
    rw [answer_eq hne, answer_eq hne, captured_append, captured_cons name _ between, hself,
      captured_eq_nil_iff.mpr hbetween, List.append_nil, List.getLast?_append, hnone,
      List.getLast?_nil, Option.none_or]
  · intro hbefore
    rw [answer_eq hne, hnone, captured_eq_nil_iff.mpr hbefore]
    rfl
  · rintro start c later rfl hc
    by_cases hne : name = ""
    · subst hne
      rfl
    · have hother : c.name ≠ name := by
        rcases hc with hc | hc
        · exact fun h => hne (h.symm.trans hc)
        · exact hc
      rw [answer_eq hne, answer_eq hne, captured_append, captured_append,
        captured_cons name c later, captured_of_ne hother, List.nil_append]

example : answer [⟨"label", "label = UILabel()"⟩, ⟨"other", "other = View()"⟩, ⟨"", "x = Y"⟩]
    ⟨"label", "nothing here"⟩ = some "UILabel" := by
  decide +kernel

end TypeGuesses
end Autocomplete
