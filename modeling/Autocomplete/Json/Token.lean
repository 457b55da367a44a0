/-!
# Lexemes of JSON text

The strict grammar: four kinds of blank, six marks, three names, numbers without leading zeros, and
strings without bare control characters. Numbers are kept as written. A string whose escapes contain
an unpaired surrogate is a lexeme, but it has no text.
-/

namespace Autocomplete
namespace Json

inductive Mark where
  | openArray
  | closeArray
  | openObject
  | closeObject
  | colon
  | comma
  deriving DecidableEq, Repr

inductive Token where
  | mark (m : Mark)
  | null
  | bool (value : Bool)
  | number (written : String)
  | string (text : Option String)
  deriving DecidableEq, Repr

def Mark.ofChar? : Char → Option Mark
  | '[' => some .openArray
  | ']' => some .closeArray
  | '{' => some .openObject
  | '}' => some .closeObject
  | ':' => some .colon
  | ',' => some .comma
  | _ => none

def isBlank (c : Char) : Bool := c == ' ' || c == '\n' || c == '\t' || c == '\r'

def isDigit (c : Char) : Bool := '0' ≤ c && c ≤ '9'

def isDigits (cs : List Char) : Bool := !cs.isEmpty && cs.all isDigit

/-- A whole number without a leading zero. -/
def isWhole (cs : List Char) : Bool := isDigits cs && (cs.head? != some '0' || cs.length == 1)

/-- The exponent of a number, from its letter on, or nothing. -/
def isExponent : List Char → Bool
  | [] => true
  | e :: '+' :: digits | e :: '-' :: digits => (e == 'e' || e == 'E') && isDigits digits
  | e :: digits => (e == 'e' || e == 'E') && isDigits digits

/-- What follows the whole part of a number. -/
def isTail : List Char → Bool
  | '.' :: rest => isDigits (rest.takeWhile isDigit) && isExponent (rest.dropWhile isDigit)
  | rest => isExponent rest

/-- A number without its sign. -/
def isMagnitude (cs : List Char) : Bool :=
  isWhole (cs.takeWhile isDigit) && isTail (cs.dropWhile isDigit)

def isNumber : List Char → Bool
  | '-' :: rest => isMagnitude rest
  | cs => isMagnitude cs

/-- The lexeme that a run of characters without marks, blanks and quotes spells. -/
def Token.ofWord? (word : List Char) : Option Token :=
  if word = ['n', 'u', 'l', 'l'] then some .null
  else if word = ['t', 'r', 'u', 'e'] then some (.bool true)
  else if word = ['f', 'a', 'l', 's', 'e'] then some (.bool false)
  else if isNumber word then some (.number (String.ofList word))
  else none

/-- A part of a string: a character as it stands, or the code unit of a numeric escape. -/
inductive Piece where
  | char (c : Char)
  | unit (n : Nat)
  deriving DecidableEq, Repr

def hexDigit? (c : Char) : Option Nat :=
  if '0' ≤ c && c ≤ '9' then some (c.toNat - 48)
  else if 'a' ≤ c && c ≤ 'f' then some (c.toNat - 87)
  else if 'A' ≤ c && c ≤ 'F' then some (c.toNat - 55)
  else none

/-- The code unit written with four hexadecimal digits. -/
def codeUnit? (a b c d : Char) : Option Nat :=
  match hexDigit? a, hexDigit? b, hexDigit? c, hexDigit? d with
  | some a, some b, some c, some d => some (((a * 16 + b) * 16 + c) * 16 + d)
  | _, _, _, _ => none

def escaped? : Char → Option Char
  | '"' => some '"'
  | '\\' => some '\\'
  | '/' => some '/'
  | 'b' => some '\x08'
  | 'f' => some '\x0c'
  | 'n' => some '\n'
  | 'r' => some '\r'
  | 't' => some '\t'
  | _ => none

def isHighSurrogate (n : Nat) : Bool := 0xD800 ≤ n && n < 0xDC00

def isLowSurrogate (n : Nat) : Bool := 0xDC00 ≤ n && n < 0xE000

/-- The text of a string, unless one of its surrogates is unpaired. -/
def textOf? : List Piece → Option (List Char)
  | [] => some []
  | .char c :: rest => (textOf? rest).map (c :: ·)
  | .unit high :: .unit low :: rest =>
    if isHighSurrogate high then
      if isLowSurrogate low then
        (textOf? rest).map (Char.ofNat (0x10000 + (high - 0xD800) * 0x400 + (low - 0xDC00)) :: ·)
      else none
    else if isLowSurrogate high then none
    else (textOf? (.unit low :: rest)).map (Char.ofNat high :: ·)
  | .unit n :: rest =>
    if isHighSurrogate n || isLowSurrogate n then none
    else (textOf? rest).map (Char.ofNat n :: ·)

/-- Where a lexer stands: between lexemes, or inside one whose characters it keeps backwards. -/
inductive Place where
  | between
  | inWord (read : List Char)
  | inString (read : List Piece)
  deriving Repr

/-- The lexeme, if any, that ends where a word would go on with `c`, and the place after `c`. -/
def Place.start (c : Char) : List Token × Place :=
  if isBlank c then ([], .between)
  else if c = '"' then ([], .inString [])
  else match Mark.ofChar? c with
    | some m => ([.mark m], .between)
    | none => ([], .inWord [c])

def endsWord (c : Char) : Bool := isBlank c || c == '"' || (Mark.ofChar? c).isSome

/-- Cuts JSON text into lexemes. -/
def tokensFrom : Place → List Char → Option (List Token)
  | .between, [] => some []
  | .inWord read, [] => (Token.ofWord? read.reverse).map ([·])
  | .inString _, [] => none
  | .between, c :: rest =>
    (tokensFrom (Place.start c).2 rest).map ((Place.start c).1 ++ ·)
  | .inWord read, c :: rest =>
    if endsWord c then
      (Token.ofWord? read.reverse).bind fun token =>
        (tokensFrom (Place.start c).2 rest).map (token :: (Place.start c).1 ++ ·)
    else tokensFrom (.inWord (c :: read)) rest
  | .inString read, '"' :: rest =>
    (tokensFrom .between rest).map
      (.string ((textOf? read.reverse).map String.ofList) :: ·)
  | .inString read, '\\' :: 'u' :: a :: b :: c :: d :: rest =>
    (codeUnit? a b c d).bind fun n => tokensFrom (.inString (.unit n :: read)) rest
  | .inString read, '\\' :: c :: rest =>
    (escaped? c).bind fun c => tokensFrom (.inString (.char c :: read)) rest
  | .inString read, c :: rest =>
    if c.toNat < 0x20 || c = '\\' then none else tokensFrom (.inString (.char c :: read)) rest

def tokens? (text : String) : Option (List Token) := tokensFrom .between text.toList

end Json
end Autocomplete
