import Std.Data.ExtTreeMap
import Autocomplete.Suggestion

/-!
# Findings

Everything that one pass over a document extracts: call suggestions, plain names, and the members of
types and enumerations, which are grouped by the names of their owners.
-/

namespace Autocomplete

/-- Names of owners with the names of their members in source order. -/
abbrev MemberMap := Std.ExtTreeMap String (List String)

namespace MemberMap

def push (members : MemberMap) (owner member : String) : MemberMap :=
  members.insert owner (members.getD owner [] ++ [member])

def ofPairs (pairs : List (String × String)) : MemberMap :=
  pairs.foldl (fun members (owner, member) => members.push owner member) ∅

end MemberMap

structure Findings where
  /-- Call snippets of functions and initializers. -/
  calls : List Suggestion := []
  /-- Type names with their members, unless the document was too large to link. -/
  members : Option MemberMap := none
  /-- Enumeration names with their cases, unless the document was too large to scan. -/
  cases : Option MemberMap := none
  /-- Plain names. -/
  names : List String := []

end Autocomplete
