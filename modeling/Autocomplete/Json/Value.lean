import Autocomplete.Json.Token

/-!
# JSON values

A value is read from its lexemes with a stack of the arrays and objects that are still open. Objects
keep their fields in order, repeated keys included, so that each reader of a value decides what a
repetition means. A string without a text, because of an unpaired surrogate, stays recognisable.
-/

namespace Autocomplete

inductive Json where
  | null
  | bool (value : Bool)
  | number (written : String)
  | string (text : Option String)
  | array (items : List Json)
  | object (fields : List (Option String × Json))
  deriving Inhabited

namespace Json

/-- An array or an object that is still open, with its finished parts backwards. -/
inductive Frame where
  | array (items : List Json)
  | object (fields : List (Option String × Json)) (key : Option String)

inductive Expected where
  /-- A value. -/
  | value
  /-- A value, or the end of an array that is still empty. -/
  | firstItem
  /-- A key, after the given fields. -/
  | key (fields : List (Option String × Json))
  /-- A key, or the end of an object that is still empty. -/
  | firstKey
  /-- The colon after a key. -/
  | colon (fields : List (Option String × Json)) (key : Option String)
  /-- What follows a finished value. -/
  | done (value : Json)

/-- What comes after the first lexeme of a value, if a value starts with it. -/
def Expected.afterStart : Token → List Frame → Option (Expected × List Frame)
  | .null, stack => some (.done .null, stack)
  | .bool b, stack => some (.done (.bool b), stack)
  | .number n, stack => some (.done (.number n), stack)
  | .string s, stack => some (.done (.string s), stack)
  | .mark .openArray, stack => some (.firstItem, .array [] :: stack)
  | .mark .openObject, stack => some (.firstKey, stack)
  | .mark _, _ => none

/-- One lexeme further. -/
def Expected.next : Expected → List Frame → Token → Option (Expected × List Frame)
  | .value, stack, token => afterStart token stack
  | .firstItem, .array [] :: stack, .mark .closeArray => some (.done (.array []), stack)
  | .firstItem, stack, token => afterStart token stack
  | .key fields, stack, .string name => some (.colon fields name, stack)
  | .key _, _, _ => none
  | .firstKey, stack, .string name => some (.colon [] name, stack)
  | .firstKey, stack, .mark .closeObject => some (.done (.object []), stack)
  | .firstKey, _, _ => none
  | .colon fields name, stack, .mark .colon => some (.value, .object fields name :: stack)
  | .colon _ _, _, _ => none
  | .done v, .array items :: stack, .mark .comma => some (.value, .array (v :: items) :: stack)
  | .done v, .array items :: stack, .mark .closeArray =>
    some (.done (.array (v :: items).reverse), stack)
  | .done v, .object fields name :: stack, .mark .comma =>
    some (.key ((name, v) :: fields), stack)
  | .done v, .object fields name :: stack, .mark .closeObject =>
    some (.done (.object ((name, v) :: fields).reverse), stack)
  | .done _, _, _ => none

/-- Reads lexemes to their end, where exactly one value must have been finished. -/
def readTokens : Expected → List Frame → List Token → Option Json
  | .done v, [], [] => some v
  | _, _, [] => none
  | expected, stack, token :: rest =>
    match expected.next stack token with
    | some (expected, stack) => readTokens expected stack rest
    | none => none

def parse? (text : String) : Option Json := (tokens? text).bind (readTokens .value [])

/-! ## Reading values -/

def maxNat64 : Nat := 18446744073709551615

/-- The number that digits spell. -/
def natOfDigits (digits : List Char) : Nat := digits.foldl (fun n c => n * 10 + (c.toNat - 48)) 0

/-- A whole number of at most 64 bits, written without sign, point and exponent. -/
def nat? : Json → Option Nat
  | number written =>
    if isDigits written.toList then
      let n := natOfDigits written.toList
      if n ≤ maxNat64 then some n else none
    else none
  | _ => none

/-- A whole number with an optional sign. -/
def int? : Json → Option Int
  | number written =>
    match written.toList with
    | '-' :: digits => if isDigits digits then some (-(natOfDigits digits : Int)) else none
    | digits => if isDigits digits then some (natOfDigits digits : Int) else none
  | _ => none

def bool? : Json → Option Bool
  | bool b => some b
  | _ => none

def string? : Json → Option String
  | string text => text
  | _ => none

def array? : Json → Option (List Json)
  | array items => some items
  | _ => none

def listOf? {α : Type} (item : Json → Option α) (j : Json) : Option (List α) :=
  j.array?.bind (·.mapM item)

def field? (key : String) : Json → Option Json
  | object fields => (fields.find? (·.1 == some key)).map (·.2)
  | _ => none

/-! ## Building values -/

def ofString (s : String) : Json := .string (some s)

def ofNat (n : Nat) : Json := .number (toString n)

def ofList {α : Type} (item : α → Json) (items : List α) : Json := .array (items.map item)

def ofOption {α : Type} (item : α → Json) : Option α → Json
  | some a => item a
  | none => .null

def ofFields (fields : List (String × Json)) : Json :=
  .object (fields.map fun (key, value) => (some key, value))

end Json
end Autocomplete
