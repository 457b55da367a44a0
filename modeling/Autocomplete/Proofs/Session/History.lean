import Autocomplete.Session

/-!
# What a session remembers of its calls

The calls of a session act on three parts of its state that do not touch each other. Analysing and
closing write the entry of one document, activating and closing move the order of the documents,
and asking for members remembers a guess. So of a history there remain the last write of each
document, the order of the activations and closings, and the order of the guesses, whatever their
interleaving. In particular nothing remains of the analyses of a document that was closed.
-/

namespace Autocomplete

namespace Document

theorem chars_eq_of_text_eq {d d' : Document} (h : d.text = d'.text) : d.chars = d'.chars := by
  have htoList := congrArg String.toList h
  simp only [Document.text, String.toList_ofList] at htoList
  exact Array.toList_inj.mp htoList

section

variable (d : Document) (id : Nat)

theorem isLineStart_withId (offset : Nat) :
    isLineStart { d with id } offset = d.isLineStart offset := by
  cases offset <;> rfl

theorem lineStart_withId (offset : Nat) : lineStart { d with id } offset = d.lineStart offset := by
  induction offset with
  | zero => rfl
  | succ offset ih => rw [lineStart, lineStart, isLineStart_withId, ih]

theorem wordEndingAt_withId (stop : Nat) :
    wordEndingAt { d with id } stop = d.wordEndingAt stop := rfl

theorem contextBefore_withId (cursor count : Nat) :
    contextBefore { d with id } cursor count = d.contextBefore cursor count := by
  have hstart : (lineAt { d with id } cursor).start = (d.lineAt cursor).start :=
    lineStart_withId d id _
  unfold contextBefore
  rw [hstart]

end

theorem eq_of_text_eq {d d' : Document} (h : d.text = d'.text) : d' = { d with id := d'.id } := by
  rw [chars_eq_of_text_eq h]

end Document

namespace Session

/-- Everything that a host may ask of a session. A request comes with the schedule of the budget
while it is answered. -/
inductive Call where
  | analyze (d : Document) (language : Language)
  | activate (id : Nat)
  | close (id : Nat)
  | complete (spent : Document → Nat → Bool) (r : Request)
  | members (d : Document) (cursor : Nat)
  | enumerations
  | cases
  | components (d : Document) (cursor : Nat)

inductive Answer where
  | done
  | items (items : List Item)
  | response (r : Response)
  deriving DecidableEq

def perform (s : Session) : Call → Answer × Session
  | .analyze d language => (.done, s.analyze d language)
  | .activate id => (.done, s.activate id)
  | .close id => (.done, s.close id)
  | .complete spent r => (.response (s.completeSpending spent r), s)
  | .members d cursor => (.items (s.memberItems d cursor).1, (s.memberItems d cursor).2)
  | .enumerations => (.items s.enumerationItems, s)
  | .cases => (.items s.caseItems, s)
  | .components d cursor => (.items (s.componentItems d cursor), s)

def after (s : Session) (calls : List Call) : Session :=
  calls.foldl (fun s c => (s.perform c).2) s

def answers : Session → List Call → List Answer
  | _, [] => []
  | s, c :: rest => (s.perform c).1 :: answers (s.perform c).2 rest

theorem after_cons (s : Session) (c : Call) (rest : List Call) :
    s.after (c :: rest) = (s.perform c).2.after rest := rfl

namespace Call

/-- What a call writes for a document: nothing, that the document is closed, or the source that is
analysed for it. -/
def write? (id : Nat) : Call → Option (Option (String × Language))
  | .analyze d language => if d.id = id then some (some (d.text, language)) else none
  | .close id' => if id' = id then some none else none
  | _ => none

/-- The last of the writes for a document. -/
def lastWrite? (id : Nat) : List Call → Option (Option (String × Language))
  | [] => none
  | c :: rest => (lastWrite? id rest).or (c.write? id)

def movesRecency : Call → Bool
  | .activate _ | .close _ => true
  | _ => false

/-- The text and the cursor that a type is guessed from. -/
def guessed? : Call → Option (String × Nat)
  | .members d cursor => some (d.text, cursor)
  | _ => none

def analyzes (id : Nat) : Call → Bool
  | .analyze d _ => d.id == id
  | _ => false

theorem lastWrite?_append (id : Nat) (calls later : List Call) :
    lastWrite? id (calls ++ later) = (lastWrite? id later).or (lastWrite? id calls) := by
  induction calls with
  | nil => simp [lastWrite?]
  | cons c rest ih => rw [List.cons_append, lastWrite?, ih, lastWrite?, Option.or_assoc]

end Call

open Call

/-! ### The settings and the store -/

theorem memberItems_snd (s : Session) (d : Document) (cursor : Nat) :
    (s.memberItems d cursor).2 = { s with guesses := (s.memberItems d cursor).2.guesses } := by
  unfold memberItems
  split <;> rfl

@[simp] theorem settings_perform (s : Session) (c : Call) :
    (s.perform c).2.settings = s.settings := by
  cases c with
  | members d cursor =>
    have hsettings := congrArg settings (s.memberItems_snd d cursor)
    exact hsettings
  | _ => rfl

@[simp] theorem settings_after (s : Session) (calls : List Call) :
    (s.after calls).settings = s.settings := by
  induction calls generalizing s with
  | nil => rfl
  | cons c rest ih => rw [after_cons, ih, settings_perform]

/-- The entry of a document that a write leaves. -/
def entryOf (settings : Settings) : Option (String × Language) → Option Findings :=
  Option.map fun (source, language) => .ofSource settings source language

theorem getElem?_store_perform (s : Session) (c : Call) (id : Nat) :
    (s.perform c).2.store[id]? =
      ((c.write? id).map (entryOf s.settings)).getD s.store[id]? := by
  cases c with
  | analyze d language =>
    by_cases h : d.id = id
    · simp [perform, analyze, Store.put, write?, entryOf, h]
    · simp [perform, analyze, Store.put, write?, h, Std.ExtTreeMap.getElem?_insert]
  | close id' =>
    by_cases h : id' = id
    · simp [perform, close, Store.forget, write?, entryOf, h]
    · simp [perform, close, Store.forget, write?, h, Std.ExtTreeMap.getElem?_erase]
  | members d cursor =>
    have hstore := congrArg store (s.memberItems_snd d cursor)
    simp [perform, hstore, write?]
  | _ => rfl

/-- The entry of a document depends on the last write for it alone. -/
theorem getElem?_store_after (s : Session) (calls : List Call) (id : Nat) :
    (s.after calls).store[id]? =
      ((lastWrite? id calls).map (entryOf s.settings)).getD s.store[id]? := by
  induction calls generalizing s with
  | nil => rfl
  | cons c rest ih =>
    rw [after_cons, ih, getElem?_store_perform, settings_perform, lastWrite?]
    cases lastWrite? id rest <;> rfl

/-! ### The order of the documents -/

/-- What an activation or a closing does to the order of the documents. -/
def moved (recency : Recency) : Call → Recency
  | .activate id => recency.activate id
  | .close id => recency.close id
  | _ => recency

theorem recency_perform (s : Session) (c : Call) :
    (s.perform c).2.recency = moved s.recency c := by
  cases c with
  | members d cursor =>
    have hrecency := congrArg Session.recency (s.memberItems_snd d cursor)
    exact hrecency
  | _ => rfl

theorem moved_of_not_movesRecency {c : Call} (h : c.movesRecency = false) (recency : Recency) :
    moved recency c = recency := by
  cases c with
  | activate id => exact absurd h Bool.noConfusion
  | close id => exact absurd h Bool.noConfusion
  | _ => rfl

theorem recency_after (s : Session) (calls : List Call) :
    (s.after calls).recency = (calls.filter movesRecency).foldl moved s.recency := by
  induction calls generalizing s with
  | nil => rfl
  | cons c rest ih =>
    rw [after_cons, ih, recency_perform]
    cases hmoves : c.movesRecency with
    | true => rw [List.filter_cons_of_pos hmoves, List.foldl_cons]
    | false =>
      rw [List.filter_cons_of_neg (by simp [hmoves]), moved_of_not_movesRecency hmoves]

/-! ### The guesses -/

def guessedFrom (settings : Settings) (guesses : TypeGuesses) (source : String × Nat) :
    TypeGuesses :=
  let d := Document.ofString 0 source.1
  if source.2 = 0 then guesses
  else (guesses.guess (d.wordEndingAt (source.2 - 1))
    (d.contextBefore source.2 settings.contextLines)).2

theorem guesses_memberItems (s : Session) (d : Document) (cursor : Nat) :
    (s.memberItems d cursor).2.guesses = guessedFrom s.settings s.guesses (d.text, cursor) := by
  have hsame : Document.ofString 0 d.text = { d with id := 0 } :=
    Document.eq_of_text_eq (Document.text_ofString 0 d.text).symm
  unfold memberItems guessedFrom
  dsimp only
  rw [hsame, d.wordEndingAt_withId 0, d.contextBefore_withId 0]
  split
  · rfl
  · generalize s.guesses.guess _ _ = guessed
    rfl

theorem guesses_perform (s : Session) (c : Call) :
    (s.perform c).2.guesses =
      (c.guessed?.map (guessedFrom s.settings s.guesses)).getD s.guesses := by
  cases c with
  | members d cursor => exact s.guesses_memberItems d cursor
  | _ => rfl

theorem guesses_after (s : Session) (calls : List Call) :
    (s.after calls).guesses =
      (calls.filterMap guessed?).foldl (guessedFrom s.settings) s.guesses := by
  induction calls generalizing s with
  | nil => rfl
  | cons c rest ih =>
    rw [after_cons, ih, guesses_perform, settings_perform]
    cases hguess : c.guessed? with
    | none => rw [List.filterMap_cons_none hguess, Option.map_none, Option.getD_none]
    | some source =>
      rw [List.filterMap_cons_some hguess, List.foldl_cons, Option.map_some, Option.getD_some]

/-! ### Histories that agree -/

/-- The documents are activated and closed in the same order, the types are guessed in the same
order from the same texts, and each document was last closed, or last analysed as the same source,
or never written. -/
structure Agree (calls calls' : List Call) : Prop where
  recency : calls.filter movesRecency = calls'.filter movesRecency
  guesses : calls.filterMap guessed? = calls'.filterMap guessed?
  writes : ∀ id, lastWrite? id calls = lastWrite? id calls'

theorem after_eq_of_agree {calls calls' : List Call} (h : Agree calls calls') (s : Session) :
    s.after calls = s.after calls' := by
  have hsettings : (s.after calls).settings = (s.after calls').settings := by simp
  have hstore : (s.after calls).store = (s.after calls').store := by
    apply Std.ExtTreeMap.ext_getElem?
    intro id
    rw [getElem?_store_after, getElem?_store_after, h.writes]
  have hrecency : (s.after calls).recency = (s.after calls').recency := by
    rw [recency_after, recency_after, h.recency]
  have hguesses : (s.after calls).guesses = (s.after calls').guesses := by
    rw [guesses_after, guesses_after, h.guesses]
  cases hafter : s.after calls
  cases hafter' : s.after calls'
  simp_all

theorem answers_eq_of_agree {calls calls' : List Call} (h : Agree calls calls') (s : Session)
    (later : List Call) : (s.after calls).answers later = (s.after calls').answers later := by
  rw [after_eq_of_agree h]

/-! ### Closed documents -/

theorem lastWrite?_filter_analyzes {id id' : Nat} (hne : id' ≠ id) (calls : List Call) :
    lastWrite? id' (calls.filter (!·.analyzes id)) = lastWrite? id' calls := by
  induction calls with
  | nil => rfl
  | cons c rest ih =>
    cases hanalyzes : c.analyzes id with
    | false => rw [List.filter_cons_of_pos (by simp [hanalyzes]), lastWrite?, lastWrite?, ih]
    | true =>
      have hwrite : c.write? id' = none := by
        cases c with
        | analyze d language =>
          have hid : d.id = id := by simpa [analyzes] using hanalyzes
          simp [write?, hid, hne.symm]
        | _ => exact absurd hanalyzes Bool.noConfusion
      rw [List.filter_cons_of_neg (by simp [hanalyzes]), ih, lastWrite?, hwrite, Option.or_none]

theorem movesRecency_of_analyzes {id : Nat} {c : Call} (h : c.analyzes id = true) :
    c.movesRecency = false := by
  cases c with
  | analyze d language => rfl
  | _ => exact absurd h Bool.noConfusion

theorem guessed?_of_analyzes {id : Nat} {c : Call} (h : c.analyzes id = true) :
    c.guessed? = none := by
  cases c with
  | analyze d language => rfl
  | _ => exact absurd h Bool.noConfusion

/-- Once a document is closed, its earlier analyses may be left out of the history. -/
theorem agree_without_analyses (id : Nat) (before between : List Call) :
    Agree (before ++ .close id :: between)
      (before.filter (!·.analyzes id) ++ .close id :: between) := by
  refine ⟨?_, ?_, ?_⟩
  · rw [List.filter_append, List.filter_append, List.filter_filter]
    congr 1
    apply List.filter_congr
    intro c _
    cases hanalyzes : c.analyzes id with
    | true => simp [movesRecency_of_analyzes hanalyzes]
    | false => simp
  · have hguessed : (fun c : Call => if (!c.analyzes id) = true then c.guessed? else none) =
        guessed? := by
      funext c
      cases hanalyzes : c.analyzes id with
      | true => simp [guessed?_of_analyzes hanalyzes]
      | false => simp
    rw [List.filterMap_append, List.filterMap_append, List.filterMap_filter, hguessed]
  · intro id'
    rw [lastWrite?_append, lastWrite?_append]
    by_cases hid : id' = id
    · -- The closing is a write of its own, so no earlier one is the last.
      subst hid
      cases hbetween : lastWrite? id' between <;> simp [lastWrite?, write?, hbetween]
    · rw [lastWrite?_filter_analyzes hid]

theorem lastWrite?_of_not_analyzes {id : Nat} {calls : List Call}
    (h : ∀ c ∈ calls, c.analyzes id = false) :
    lastWrite? id calls = none ∨ lastWrite? id calls = some none := by
  induction calls with
  | nil => exact Or.inl rfl
  | cons c rest ih =>
    have hwrite : c.write? id = none ∨ c.write? id = some none := by
      cases c with
      | analyze d language =>
        have hid : d.id ≠ id := by simpa [analyzes] using h _ List.mem_cons_self
        exact Or.inl (if_neg hid)
      | close id' =>
        by_cases hid : id' = id
        · exact Or.inr (if_pos hid)
        · exact Or.inl (if_neg hid)
      | _ => exact Or.inl rfl
    rw [lastWrite?]
    rcases ih fun c' hc' => h c' (List.mem_cons_of_mem c hc') with hrest | hrest
    · rwa [hrest, Option.none_or]
    · exact Or.inr (by rw [hrest, Option.some_or])

theorem getElem?_store_after_close {id : Nat} {between : List Call}
    (h : ∀ c ∈ between, c.analyzes id = false) (s : Session) (before : List Call) :
    (s.after (before ++ .close id :: between)).store[id]? = none := by
  have hwrite : lastWrite? id (before ++ .close id :: between) = some none := by
    rw [lastWrite?_append, lastWrite?]
    rcases lastWrite?_of_not_analyzes h with hbetween | hbetween <;> simp [hbetween, write?]
  rw [getElem?_store_after, hwrite]
  rfl

/-- Two new sessions answer every later call alike, under any schedule of the budget, if their
histories agree on the order of the activations and closings, on the order of the guesses, and on
the last write of each document. In particular what was analysed for a document before it was closed
has no effect on any later answer, and nothing is kept for the document until it is analysed
again. -/
theorem answers_depend_on_last_writes (settings : Settings) :
    (∀ calls calls' : List Call, Agree calls calls' → ∀ later : List Call,
      ((new settings).after calls).answers later = ((new settings).after calls').answers later) ∧
    (∀ (id : Nat) (before between later : List Call),
      ((new settings).after (before ++ .close id :: between)).answers later =
        ((new settings).after
          (before.filter (!·.analyzes id) ++ .close id :: between)).answers later) ∧
    (∀ (id : Nat) (before between : List Call), (∀ c ∈ between, c.analyzes id = false) →
      ((new settings).after (before ++ .close id :: between)).store[id]? = none) := by
  refine ⟨?_, ?_, ?_⟩
  · intro calls calls' h later
    exact answers_eq_of_agree h (new settings) later
  · intro id before between later
    exact answers_eq_of_agree (agree_without_analyses id before between) (new settings) later
  · intro id before between h
    exact getElem?_store_after_close h (new settings) before

/-- One document is analysed and closed, another one is analysed twice. -/
def longHistory : List Call := [
  .analyze (.ofString 1 "enum C { case red }") .swift,
  .activate 1,
  .analyze (.ofString 2 "enum S { case big }") .react,
  .members (.ofString 3 "s = Size") 1,
  .activate 2,
  .close 1,
  .analyze (.ofString 2 "enum S { case big }") .swift]

/-- The same without what is forgotten or replaced, in another order. -/
def shortHistory : List Call := [
  .analyze (.ofString 2 "enum S { case big }") .swift,
  .activate 1,
  .activate 2,
  .close 1,
  .members (.ofString 4 "s = Size") 1]

/-- A document with two words that repair extends while its budget lasts. -/
def accentedRequest : Request := ⟨.ofString 5 "cafe\u0301 naiv\u0308", [], "", 0⟩

theorem answers_depend_on_last_writes_of_two_documents :
    Agree longHistory shortHistory ∧
      ((new {}).after longHistory).answers [.enumerations] = [.items [⟨"S.big", "big"⟩]] ∧
      (∀ spent, ((new {}).after longHistory).answers [.complete spent accentedRequest] =
        ((new {}).after shortHistory).answers [.complete spent accentedRequest]) ∧
      ((new {}).after longHistory).store[1]? = none := by
  have hagree : Agree longHistory shortHistory := by
    refine ⟨?_, ?_, ?_⟩
    · simp [longHistory, shortHistory, List.filter_cons, movesRecency]
    · simp [longHistory, shortHistory, List.filterMap_cons, guessed?]
    · intro id
      by_cases h : 1 = id
      · simp [longHistory, shortHistory, lastWrite?, write?, Document.ofString, ← h]
      · simp only [longHistory, shortHistory, lastWrite?, write?, Document.ofString, if_neg h,
          Option.none_or, Option.or_none]
        split <;> rfl
  have hsplit : longHistory = longHistory.take 5 ++ .close 1 :: longHistory.drop 6 := rfl
  obtain ⟨hanswers, -, hclosed⟩ := answers_depend_on_last_writes {}
  refine ⟨hagree, ?_, ?_, ?_⟩
  · rw [hanswers longHistory shortHistory hagree]
    decide +kernel
  · intro spent
    exact hanswers longHistory shortHistory hagree [.complete spent accentedRequest]
  · rw [hsplit]
    exact hclosed 1 (longHistory.take 5) (longHistory.drop 6) (by decide)

end Session

end Autocomplete
