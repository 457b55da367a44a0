import Autocomplete.Json.Value

/-!
# Writing JSON text

Values are written without blanks. Strings escape the quote, the backslash and the control
characters; every other character stands for itself.
-/

namespace Autocomplete
namespace Json

def hexDigit (n : Nat) : Char := Char.ofNat (if n < 10 then 48 + n else 87 + n)

def escape (c : Char) : List Char :=
  if c = '"' then ['\\', '"']
  else if c = '\\' then ['\\', '\\']
  else if c.toNat < 0x20 then
    ['\\', 'u', '0', '0', hexDigit (c.toNat / 16), hexDigit (c.toNat % 16)]
  else [c]

def quote (s : String) : String :=
  String.ofList ('"' :: s.toList.flatMap escape ++ ['"'])

mutual

/-- The text of a value; a string without a text is written as an empty one. -/
def render : Json → String
  | null => "null"
  | bool true => "true"
  | bool false => "false"
  | number written => written
  | string text => quote (text.getD "")
  | array items => "[" ++ ",".intercalate (renderItems items) ++ "]"
  | object fields => "\x7b" ++ ",".intercalate (renderFields fields) ++ "\x7d"

def renderItems : List Json → List String
  | [] => []
  | item :: rest => render item :: renderItems rest

def renderFields : List (Option String × Json) → List String
  | [] => []
  | field :: rest => renderField field :: renderFields rest

def renderField : Option String × Json → String
  | (key, value) => quote (key.getD "") ++ ":" ++ render value

end

end Json
end Autocomplete
