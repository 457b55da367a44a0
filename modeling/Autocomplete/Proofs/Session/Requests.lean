import Autocomplete.Proofs.Document.Cursor
import Autocomplete.Proofs.Store.Listing
import Autocomplete.Session

/-!
# How a request is answered

A request is about a call if the cursor stands just after an opening parenthesis and nothing is
typed. Then the known calls of the word before the parenthesis are offered, and the host is asked to
close the call itself if there are none. Every other request is about words, and what is stored does
not matter.
-/

namespace Autocomplete

open Scan Text

namespace Request

/-- Nothing is typed, and the cursor stands just after a parenthesis that opens after `before`. -/
structure OpensCall (r : Request) (before : List Char) : Prop where
  typed : r.typed = ""
  cursor : r.cursor = before.length + 1
  text : before ++ ['('] <+: r.active.chars.toList

theorem OpensCall.char? {r : Request} {before : List Char} (h : r.OpensCall before) :
    r.active.char? before.length = some '(' := by
  obtain ⟨after, htext⟩ := h.text
  rw [Document.char?, ← Array.getElem?_toList, ← htext, List.append_assoc]
  simp

theorem isCall_iff (r : Request) : r.isCall = true ↔ ∃ before, r.OpensCall before := by
  simp only [isCall, Bool.and_eq_true, bne_iff_ne, beq_iff_eq, String.isEmpty_iff]
  constructor
  · rintro ⟨⟨hcursor, hread⟩, htyped⟩
    obtain ⟨i, hi⟩ := Nat.exists_eq_succ_of_ne_zero hcursor
    rw [hi, Nat.succ_sub_one, Document.char?, ← Array.getElem?_toList] at hread
    have hlt := (List.getElem?_eq_some_iff.mp hread).1
    refine ⟨r.active.chars.toList.take i, htyped, ?_, ?_⟩
    · rw [hi, List.length_take_of_le (Nat.le_of_lt hlt)]
    · have htake : r.active.chars.toList.take i ++ ['('] = r.active.chars.toList.take (i + 1) := by
        rw [List.take_add_one, hread, Option.toList_some]
      exact htake ▸ List.take_prefix _ _
  · rintro ⟨before, h⟩
    rw [h.cursor]
    exact ⟨⟨Nat.succ_ne_zero _, h.char?⟩, h.typed⟩

/-- The called name is the word with which the text before the parenthesis ends. -/
theorem OpensCall.toList_wordEndingAt {r : Request} {before : List Char} (h : r.OpensCall before) :
    (r.active.wordEndingAt (r.cursor - 1)).toList = before.rtakeWhile isNameChar := by
  obtain ⟨after, htext⟩ := h.text
  rw [Document.toList_wordEndingAt, h.cursor, Nat.add_sub_cancel, ← htext, List.append_assoc,
    List.take_left]

end Request

namespace Session

theorem firstAppearances_callItems {s : Session} {r : Request} {before : List Char}
    (h : r.OpensCall before) :
    FirstAppearances
      (if before.rtakeWhile isNameChar = [] then []
        else Store.callsOf s.store.toList (String.ofList (before.rtakeWhile isNameChar)))
      (s.callItems r.active r.cursor) := by
  have hname : r.active.wordEndingAt (r.cursor - 1) =
      String.ofList (before.rtakeWhile isNameChar) := by
    rw [← h.toList_wordEndingAt, String.ofList_toList]
  simp only [callItems, hname]
  by_cases hempty : before.rtakeWhile isNameChar = []
  · rw [if_pos hempty, hempty]
    exact firstAppearances_distinct []
  · have hsome : ¬(String.ofList (before.rtakeWhile isNameChar)).isEmpty = true := by
      simpa using hempty
    rw [if_neg hempty, if_neg hsome]
    exact s.store.firstAppearances_callItems _

theorem completeSpending_of_isCall (s : Session) (spent : Document → Nat → Bool) {r : Request}
    (h : r.isCall = true) :
    s.completeSpending spent r =
      ⟨s.callItems r.active r.cursor, (s.callItems r.active r.cursor).isEmpty⟩ := by
  rw [completeSpending, if_pos h]

theorem completeSpending_of_not_isCall (s : Session) (spent : Document → Nat → Bool) {r : Request}
    (h : ¬r.isCall = true) :
    s.completeSpending spent r =
      ⟨Words.completeSpending spent s.settings r.active r.others s.recency r.typed (some r.cursor),
        false⟩ := by
  rw [completeSpending, if_neg h]

/-- Just after an opening parenthesis with nothing typed, the arguments of the stored calls are
offered whose name starts with the word before the parenthesis, each once and in the order of the
documents, and the host closes the call itself exactly if there are none. Every other request gets
words, whatever is stored. This holds whenever the budget of a document is spent. -/
theorem requests_are_dispatched (s : Session) (r : Request) (spent : Document → Nat → Bool) :
    (∀ before, r.OpensCall before → ∃ entries name,
      s.store.Listed entries ∧
      IsLongestEnding isNameChar before name ∧
      FirstAppearances (if name = [] then [] else Store.callsOf entries (String.ofList name))
        (s.completeSpending spent r).items ∧
      ((s.completeSpending spent r).closeCall = true ↔ (s.completeSpending spent r).items = [])) ∧
    ((∀ before, ¬r.OpensCall before) →
      (s.completeSpending spent r).closeCall = false ∧
      (s.completeSpending spent r).items =
        Words.completeSpending spent s.settings r.active r.others s.recency r.typed
          (some r.cursor) ∧
      ∀ store, { s with store }.completeSpending spent r = s.completeSpending spent r) := by
  constructor
  · intro before h
    simp only [s.completeSpending_of_isCall spent (r.isCall_iff.mpr ⟨before, h⟩)]
    exact ⟨s.store.toList, _, s.store.listed_toList, isLongestEnding_rtakeWhile _ _,
      firstAppearances_callItems h, List.isEmpty_iff⟩
  · intro hother
    have hcall : ¬r.isCall = true := fun h => not_exists.mpr hother (r.isCall_iff.mp h)
    rw [s.completeSpending_of_not_isCall spent hcall]
    exact ⟨rfl, rfl, fun store => completeSpending_of_not_isCall _ spent hcall⟩

def moveSession : Session :=
  { Session.new {} with
    store := (Store.put ∅ 2 { calls := [⟨"move", "to: $1"⟩, ⟨"moveAll", "$1"⟩] }).put 1
      { calls := [⟨"draw", "$1"⟩, ⟨"MOVE", "to: $1"⟩] } }

/-- The cursor stands between the parenthesis and the argument. -/
def moveRequest : Request := ⟨Document.ofString 1 "view.Move(x)", [], "", 10⟩

def argumentRequest : Request := { moveRequest with typed := "x", cursor := 11 }

theorem requests_are_dispatched_after_move :
    moveRequest.OpensCall "view.Move".toList ∧
      moveSession.complete moveRequest = ⟨[⟨"to: $1", "to: $1)"⟩, ⟨"$1", "$1)"⟩], false⟩ ∧
      (∃ entries name, moveSession.store.Listed entries ∧
        IsLongestEnding isNameChar "view.Move".toList name ∧
        FirstAppearances (if name = [] then [] else Store.callsOf entries (String.ofList name))
          (moveSession.complete moveRequest).items) ∧
      (∀ before, ¬argumentRequest.OpensCall before) ∧
      ∀ spent, (moveSession.completeSpending spent argumentRequest).closeCall = false ∧
        { moveSession with store := ∅ }.completeSpending spent argumentRequest =
          moveSession.completeSpending spent argumentRequest := by
  have hcall : moveRequest.OpensCall "view.Move".toList := ⟨rfl, rfl, by decide⟩
  have hword : ∀ before, ¬argumentRequest.OpensCall before := fun _ h => absurd h.typed (by decide)
  obtain ⟨entries, name, hlisted, hname, hitems, -⟩ :=
    (requests_are_dispatched moveSession moveRequest fun _ =>
      moveSession.settings.repairSpent).1 _ hcall
  refine ⟨hcall, by decide +kernel, ⟨entries, name, hlisted, hname, hitems⟩, hword, ?_⟩
  intro spent
  obtain ⟨hclose, -, hstore⟩ := (requests_are_dispatched moveSession argumentRequest spent).2 hword
  exact ⟨hclose, hstore ∅⟩

end Session

end Autocomplete
