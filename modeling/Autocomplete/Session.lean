import Autocomplete.Findings.OfSource
import Autocomplete.Rules.TypeGuess
import Autocomplete.Store
import Autocomplete.Words.Complete

/-!
# Completion sessions

A session keeps the findings of the analysed documents, the order in which documents were active
and the guessed types. Every request is answered from these and from the texts that come with it.
-/

namespace Autocomplete

structure Session where
  settings : Settings
  store : Store
  recency : Recency
  guesses : TypeGuesses

structure Response where
  items : List Item
  /-- The host should close the call itself, because no call is known. -/
  closeCall : Bool
  deriving DecidableEq, Repr

structure Request where
  active : Document
  others : List Document
  /-- The part of the word before the cursor. -/
  typed : String
  cursor : Nat

namespace Request

/-- Whether the character before the cursor opens a parenthesis and nothing is typed after it. -/
def isCall (r : Request) : Bool :=
  r.cursor != 0 && r.active.char? (r.cursor - 1) == some '(' && r.typed.isEmpty

end Request

namespace Session

def new (settings : Settings) : Session :=
  ⟨settings, ∅, { capacity := settings.maxDocuments }, ∅⟩

def analyze (s : Session) (d : Document) (language : Language) : Session :=
  { s with store := s.store.put d.id (.ofSource s.settings d.text language) }

def activate (s : Session) (id : Nat) : Session := { s with recency := s.recency.activate id }

def close (s : Session) (id : Nat) : Session :=
  { s with recency := s.recency.close id, store := s.store.forget id }

/-- The known calls of the name before an opening parenthesis. -/
def callItems (s : Session) (d : Document) (cursor : Nat) : List Item :=
  let name := d.wordEndingAt (cursor - 1)
  if name.isEmpty then [] else s.store.callItems name

/-- Answers a request: with the known calls after an opening parenthesis, otherwise with words. The
schedule tells after which words of a document its budget for repair is spent. -/
def completeSpending (s : Session) (spent : Document → Nat → Bool) (r : Request) : Response :=
  if r.isCall then
    let items := s.callItems r.active r.cursor
    ⟨items, items.isEmpty⟩
  else ⟨Words.completeSpending spent s.settings r.active r.others s.recency r.typed (some r.cursor),
    false⟩

/-- The answer under the schedule that the budget of the settings stands for. -/
def complete (s : Session) (r : Request) : Response :=
  s.completeSpending (fun _ => s.settings.repairSpent) r

/-- The members of the guessed type of the variable before the dot at the cursor. -/
def memberItems (s : Session) (d : Document) (cursor : Nat) : List Item × Session :=
  if cursor = 0 then ([], s)
  else
    let (type, guesses) := s.guesses.guess (d.wordEndingAt (cursor - 1))
      (d.contextBefore cursor s.settings.contextLines)
    ((type.map s.store.memberItems).getD [], { s with guesses := guesses })

/-- Every enumeration case under the name of its enumeration. -/
def enumerationItems (s : Session) : List Item := s.store.enumerationItems

/-- The bodies of switches and the single cases. -/
def caseItems (s : Session) : List Item := s.store.caseItems

/-- The component names, completed after the owner that is typed before the cursor. -/
def componentItems (s : Session) (d : Document) (cursor : Nat) : List Item :=
  s.store.nameItems (React.typedOwner (d.lineBefore cursor))

end Session

end Autocomplete
