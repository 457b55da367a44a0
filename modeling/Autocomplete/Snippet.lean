import Autocomplete.Text.Lines

/-!
# Snippets

A snippet is a text with numbered tab stops. The arguments of a call are made from the parameter
list of a declaration: a parameter is cut off at every comma, and one that starts with words and a
colon is named after the last word and labelled with the word before it.
-/

namespace Autocomplete
namespace Snippet

open Text

def tabStop (index : Nat) : String := "$" ++ toString index

def placeholder (index : Nat) (name : String) : String :=
  "$\x7b" ++ toString index ++ ":" ++ name ++ "\x7d"

def emptyPlaceholder (index : Nat) : String := "$\x7b" ++ toString index ++ "\x7d"

def labeled (label argument : String) : String := label ++ ": " ++ argument

/-- The name of a parameter, and the label it is passed under. -/
structure Parameter where
  label : String
  name : String
  deriving DecidableEq, Repr

namespace Parameter

/-- The words before the colon of a parameter, unless something else stands there. -/
def words? (piece : List Char) : Option (List (List Char)) :=
  let isPart (c : Char) := isWideWordChar c || isBlank c
  match piece.dropWhile isPart with
  | ':' :: _ => some (((piece.takeWhile isPart).splitOnP isBlank).filter (!·.isEmpty))
  | _ => none

def parse? (piece : List Char) : Option Parameter :=
  match (words? piece).map List.reverse with
  | some (name :: label :: _) => some ⟨String.ofList label, String.ofList name⟩
  | some [name] => some ⟨String.ofList name, String.ofList name⟩
  | _ => none

end Parameter

/-- The arguments for the pieces of a parameter list, with tab stops from `index` on. The first
parameter of a function loses its label and is followed by a tab stop of its own; a piece that is
no parameter becomes a bare tab stop. -/
def arguments (firstOfFunction : Bool) (index : Nat) : List (List Char) → List String
  | [] => []
  | piece :: rest =>
    match Parameter.parse? piece with
    | none => tabStop index :: arguments false (index + 1) rest
    | some p =>
      if firstOfFunction then
        (placeholder index p.name ++ tabStop (index + 1)) :: arguments false (index + 2) rest
      else labeled p.label (placeholder index p.name) :: arguments false (index + 1) rest

def call (parameters : String) (ofFunction : Bool) : String :=
  if trim parameters.toList = [] then "()"
  else "(" ++ ", ".intercalate (arguments ofFunction 1 (parameters.toList.splitOn ',')) ++ ")"

/-- The memberwise initializer arguments for the fields, with tab stops from `index` on. -/
def fieldArguments (index : Nat) : List String → List String
  | [] => []
  | field :: rest => labeled field (emptyPlaceholder index) :: fieldArguments (index + 1) rest

/-- The arguments of a memberwise initializer. -/
def memberwise (fields : List String) : String := ", ".intercalate (fieldArguments 1 fields)

/-- The body of a switch over the cases, after the first `case .`. -/
def switchCases (cases : List String) : String :=
  "\ncase .".intercalate (cases.map (· ++ ":"))

/-- Protects `$`, so that a plain text has no tab stops. -/
def escape (text : String) : String :=
  String.ofList (text.toList.flatMap fun c => if c = '$' then ['\\', '$'] else [c])

theorem call_of_blank {parameters : String} (h : trim parameters.toList = [])
    (ofFunction : Bool) : call parameters ofFunction = "()" := by
  simp [call, h]

theorem length_arguments (firstOfFunction : Bool) (index : Nat) (pieces : List (List Char)) :
    (arguments firstOfFunction index pieces).length = pieces.length := by
  induction pieces generalizing firstOfFunction index with
  | nil => rfl
  | cons piece rest ih =>
    unfold arguments
    split
    · simp [ih]
    · split <;> simp [ih]

end Snippet
end Autocomplete
