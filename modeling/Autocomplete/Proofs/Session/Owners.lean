import Autocomplete.Proofs.Document.Cursor
import Autocomplete.Proofs.Store.Listing
import Autocomplete.Session
import Mathlib.Data.List.Infix

/-!
# Completing dotted names

The owner of the name that is being typed is read from the line of the cursor alone. A line break is
no part of a path, so the whole text before the cursor gives the same owner. Each stored name is
offered once, and what is inserted after the owner makes it complete.
-/

namespace Autocomplete

open Scan Text

namespace Snippet

/-- What a host inserts for an escaped text. -/
def unescape : List Char → List Char
  | '\\' :: '$' :: rest => '$' :: unescape rest
  | c :: rest => c :: unescape rest
  | [] => []

theorem unescape_cons {c : Char} {rest : List Char} (h : rest.head? ≠ some '$') :
    unescape (c :: rest) = c :: unescape rest := by
  rw [unescape]
  rintro rest' rfl rfl
  exact h rfl

theorem toList_escape_cons (c : Char) (text : List Char) :
    (escape (String.ofList (c :: text))).toList =
      (if c = '$' then ['\\', '$'] else [c]) ++ (escape (String.ofList text)).toList := by
  simp only [escape, String.toList_ofList, List.flatMap_cons]

theorem head_escape (text : List Char) : (escape (String.ofList text)).toList.head? ≠ some '$' := by
  cases text with
  | nil => simp [escape]
  | cons c text =>
    rw [toList_escape_cons]
    split
    · simp
    · simpa using ‹c ≠ '$'›

/-- The host inserts the text that was escaped. -/
theorem unescape_escape (text : List Char) :
    unescape (escape (String.ofList text)).toList = text := by
  induction text with
  | nil => rfl
  | cons c text ih =>
    rw [toList_escape_cons]
    split
    · rename_i hc
      subst hc
      rw [List.cons_append, List.cons_append, List.nil_append, unescape, ih]
    · rw [List.cons_append, List.nil_append, unescape_cons (head_escape text), ih]

end Snippet

/-- The part of a path up to its last dot, or nothing if there is no dot. -/
structure IsOwner (path owner : List Char) : Prop where
  exists_rest : ∃ rest, path = owner ++ rest ∧ '.' ∉ rest
  ends : owner = [] ∨ owner.getLast? = some '.'

theorem isOwner_rdropWhile (path : List Char) : IsOwner path (path.rdropWhile (· != '.')) where
  exists_rest := by
    refine ⟨path.rtakeWhile (· != '.'), List.rdropWhile_append_rtakeWhile.symm, fun hdot => ?_⟩
    simpa using List.mem_rtakeWhile_imp hdot
  ends := by
    by_cases hne : path.rdropWhile (· != '.') = []
    · exact .inl hne
    · have hlast := List.rdropWhile_last_not _ _ hne
      right
      rw [List.getLast?_eq_getLast_of_ne_nil hne]
      simpa using hlast

namespace Document

theorem isPathChar_of_isLineBreak {c : Char} (h : isLineBreak c = true) : isPathChar c = false := by
  simp only [isLineBreak, Bool.or_eq_true, beq_iff_eq] at h
  rcases h with (((((rfl | rfl) | rfl) | rfl) | rfl) | rfl) | rfl <;> decide +kernel

/-- The path before a cursor does not reach beyond the line of the cursor. -/
theorem rtakeWhile_lineBefore (d : Document) (cursor : Nat) :
    (d.lineBefore cursor).toList.rtakeWhile isPathChar =
      (d.chars.toList.take cursor).rtakeWhile isPathChar := by
  rw [lineBefore, toList_textIn, ← d.take_append_drop_lineAt cursor, rtakeWhile_append_of_last,
    d.take_append_drop_lineAt]
  intro c hc
  exact isPathChar_of_isLineBreak (d.isLineBreak_before_lineAt hc)

end Document

namespace React

theorem toList_typedOwner (before : String) :
    (typedOwner before).toList = (before.toList.rtakeWhile isPathChar).rdropWhile (· != '.') := by
  rw [typedOwner, String.toList_ofList, List.rdropWhile, List.rtakeWhile, List.reverse_reverse]

end React

namespace Store

def itemAfter (owner : List Char) (name : String) : Item :=
  ⟨name ++ "\t:", Snippet.escape (String.ofList
    (if owner <+: name.toList then name.toList.drop owner.length else name.toList))⟩

theorem withoutOwner_eq (owner name : String) :
    withoutOwner owner name = String.ofList
      (if owner.toList <+: name.toList then name.toList.drop owner.toList.length
        else name.toList) := by
  unfold withoutOwner
  split
  · rename_i rest hrest
    rw [List.isPrefixOf?_eq_some_iff_append_eq] at hrest
    rw [if_pos ⟨rest, hrest⟩, ← hrest, List.drop_left]
  · rename_i hnone
    rw [if_neg, String.ofList_toList]
    rintro ⟨rest, hrest⟩
    rw [List.isPrefixOf?_eq_some_iff_append_eq.mpr hrest] at hnone
    cases hnone

theorem nameItems_eq (s : Store) (owner : String) :
    s.nameItems owner =
      (distinct (s.toList.flatMap (·.2.names))).map (itemAfter owner.toList) := by
  have hitem : (fun name => (⟨name ++ "\t:", Snippet.escape (withoutOwner owner name)⟩ : Item)) =
      itemAfter owner.toList := by
    funext name
    rw [withoutOwner_eq, itemAfter]
  rw [nameItems, flatMap_values, hitem]

theorem append_unescape_itemAfter {owner : List Char} {name : String} (h : owner <+: name.toList) :
    owner ++ Snippet.unescape (itemAfter owner name).insert.toList = name.toList := by
  rw [itemAfter, if_pos h, Snippet.unescape_escape]
  exact (List.prefix_append_drop h).symm

end Store

namespace Session

/-- The owner is the part up to the last dot of the longest path that ends at the cursor. One item
is offered for each stored name, in the order in which the names first appear in the documents, and
what it inserts is the name without the owner if it starts with that. -/
theorem component_items_follow_the_owner (s : Session) (d : Document) (cursor : Nat) :
    ∃ entries names path owner,
      s.store.Listed entries ∧
      FirstAppearances (entries.flatMap (·.2.names)) names ∧
      IsLongestEnding isPathChar (d.chars.toList.take cursor) path ∧
      IsOwner path owner ∧
      s.componentItems d cursor = names.map (Store.itemAfter owner) ∧
      ∀ name, owner <+: name.toList →
        owner ++ Snippet.unescape (Store.itemAfter owner name).insert.toList = name.toList := by
  have howner : (React.typedOwner (d.lineBefore cursor)).toList =
      ((d.chars.toList.take cursor).rtakeWhile isPathChar).rdropWhile (· != '.') := by
    rw [React.toList_typedOwner, d.rtakeWhile_lineBefore]
  refine ⟨s.store.toList, distinct (s.store.toList.flatMap (·.2.names)), _, _,
    s.store.listed_toList, firstAppearances_distinct _, isLongestEnding_rtakeWhile _ _,
    isOwner_rdropWhile _, ?_, fun _ => Store.append_unescape_itemAfter⟩
  rw [componentItems, Store.nameItems_eq, howner]

/-- The owner stands on the second line; one of the names starts with it. -/
example :
    let store := Store.put ∅ 1 { names := ["App.Body", "Nav", "App.Body"] }
    { Session.new {} with store }.componentItems (Document.ofString 2 "a.\r\n<App.B/>") 10 =
      [⟨"App.Body\t:", "Body"⟩, ⟨"Nav\t:", "Nav"⟩] := by
  decide +kernel

end Session

end Autocomplete
