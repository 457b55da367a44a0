import Autocomplete.Document
import Mathlib.Data.List.DropRight

/-!
# The text before a cursor

The word that ends at an offset and the start of its line are found by going back from the offset.
So both are known from the text before it: the word is the longest ending made of name characters,
and no newline stands between the start of the line and the offset. Where lines end at newlines
alone, the text before the line is empty or ends with one.
-/

namespace Autocomplete

open Scan Text

section Endings

variable {p : Char → Bool} {before after : List Char}

/-- The longest ending of a text with characters of one kind only. -/
structure IsLongestEnding (p : Char → Bool) (text ending : List Char) : Prop where
  suffix : ending <:+ text
  full : ∀ c ∈ ending, p c = true
  longest : ∀ other, other <:+ text → (∀ c ∈ other, p c = true) → other.length ≤ ending.length

theorem isLongestEnding_rtakeWhile (p : Char → Bool) (text : List Char) :
    IsLongestEnding p text (text.rtakeWhile p) where
  suffix := List.rtakeWhile_suffix p text
  full _ h := List.mem_rtakeWhile_imp h
  longest other hother hfull := by
    obtain ⟨front, rfl⟩ := hother
    have hread : ∀ c ∈ other.reverse, p c = true := fun c hc => hfull c (List.mem_reverse.mp hc)
    rw [List.rtakeWhile, List.reverse_append, List.takeWhile_append_of_pos hread]
    simp

theorem rtakeWhile_append_of_last (h : ∀ c ∈ before.getLast?, p c = false) :
    (before ++ after).rtakeWhile p = after.rtakeWhile p := by
  -- Endings are read from the right, so the induction is on the last character.
  induction after using List.reverseRecOn with
  | nil =>
    rw [List.append_nil, List.rtakeWhile_nil, List.rtakeWhile_eq_nil_iff]
    intro hne
    simpa using h _ (List.getLast?_eq_getLast_of_ne_nil hne)
  | append_singleton after c ih =>
    rw [← List.append_assoc, List.rtakeWhile_concat, List.rtakeWhile_concat, ih]

/-- The run that ends at an offset is the longest ending of the text before it. -/
theorem drop_runStart (p : Char → Bool) (text : List Char) {stop : Nat} (h : stop ≤ text.length) :
    (text.take stop).drop (runStart (fun i => text[i]?.any p) stop) =
      (text.take stop).rtakeWhile p := by
  induction stop with
  | zero => simp [runStart]
  | succ stop ih =>
    have hread : text[stop]? = some text[stop] := List.getElem?_eq_getElem h
    have hlength : (text.take stop).length = stop := List.length_take_of_le (Nat.le_of_succ_le h)
    have hwhole : (text.take stop ++ [text[stop]]).length = stop + 1 := by
      rw [List.length_append, hlength, List.length_singleton]
    have hle := runStart_le (fun i => text[i]?.any p) stop
    rw [List.take_add_one, hread, Option.toList_some, List.rtakeWhile_concat, runStart, hread,
      Option.any_some]
    split
    · rw [List.drop_append_of_le_length (by omega), ih (Nat.le_of_succ_le h)]
    · exact List.drop_of_length_le (Nat.le_of_eq hwhole)

end Endings

namespace Document

variable (d : Document)

theorem charSatisfies_eq (p : Char → Bool) :
    d.charSatisfies p = fun i => d.chars.toList[i]?.any p := by
  funext i
  rw [charSatisfies, char?, Array.getElem?_toList]

theorem toList_textIn (w : Window) :
    (d.textIn w).toList = (d.chars.toList.take w.stop).drop w.start := by
  rw [textIn, String.toList_ofList, Window.slice, Array.toList_extract, List.extract_eq_take_drop,
    List.drop_take]

theorem take_min_length (offset : Nat) :
    d.chars.toList.take (min offset d.length) = d.chars.toList.take offset := by
  have hlength : d.length = d.chars.toList.length := rfl
  rw [hlength, ← List.take_eq_take_min]

/-- The word that ends at an offset is the longest ending with name characters. -/
theorem toList_wordEndingAt (stop : Nat) :
    (d.wordEndingAt stop).toList = (d.chars.toList.take stop).rtakeWhile isNameChar := by
  have hstart : (d.wordAt stop).start ≤ min stop d.length := runStart_le _ _
  have hrun := drop_runStart isNameChar d.chars.toList (Nat.min_le_right stop d.length)
  rw [wordEndingAt, toList_textIn, Nat.min_eq_left (Nat.le_trans hstart (Nat.min_le_left _ _)),
    ← take_min_length, ← hrun, ← charSatisfies_eq]
  rfl

theorem isLineStart_lineStart (offset : Nat) : d.isLineStart (d.lineStart offset) = true := by
  induction offset with
  | zero => rfl
  | succ offset ih =>
    unfold lineStart
    split
    · assumption
    · exact ih

theorem le_lineStart {start offset : Nat} (hstart : d.isLineStart start = true)
    (hle : start ≤ offset) : start ≤ d.lineStart offset := by
  induction offset with
  | zero => exact hle
  | succ offset ih =>
    unfold lineStart
    split
    · exact hle
    · rename_i hnot
      have hne : start ≠ offset + 1 := fun heq => hnot (heq ▸ hstart)
      exact ih (by omega)

theorem take_append_drop_lineAt (cursor : Nat) :
    d.chars.toList.take (d.lineAt cursor).start ++
      (d.chars.toList.take cursor).drop (d.lineAt cursor).start = d.chars.toList.take cursor := by
  have hle : (d.lineAt cursor).start ≤ cursor :=
    Nat.le_trans (d.lineStart_le _) (Nat.min_le_left _ _)
  have hsplit := List.take_append_drop (d.lineAt cursor).start (d.chars.toList.take cursor)
  rwa [List.take_take, Nat.min_eq_left hle] at hsplit

theorem isLineBreak_before_lineAt {cursor : Nat} {c : Char}
    (h : c ∈ (d.chars.toList.take (d.lineAt cursor).start).getLast?) : isLineBreak c = true := by
  have hstart : d.isLineStart (d.lineAt cursor).start = true := d.isLineStart_lineStart _
  cases hoffset : (d.lineAt cursor).start with
  | zero => simp [hoffset] at h
  | succ i =>
    rw [hoffset] at h hstart
    have hbreak : d.chars.toList[i]?.any isLineBreak = true := by
      rw [isLineStart, charSatisfies_eq, Bool.and_eq_true] at hstart
      exact hstart.1
    cases hread : d.chars.toList[i]? with
    | none => simp [hread] at hbreak
    | some c' =>
      rw [List.take_add_one, hread, Option.toList_some, List.getLast?_concat,
        Option.mem_some_iff] at h
      simpa [hread, h] using hbreak

theorem isLineStart_of_newline {i : Nat} (h : d.chars.toList[i]? = some '\n') :
    d.isLineStart (i + 1) = true := by
  have hread : d.char? i = some '\n' := by rw [char?, ← Array.getElem?_toList, h]
  simp [isLineStart, charSatisfies, hread, isLineBreak]

theorem newline_not_mem_drop_lineAt (cursor : Nat) :
    '\n' ∉ (d.chars.toList.take cursor).drop (d.lineAt cursor).start := by
  have hstart : (d.lineAt cursor).start = d.lineStart (min cursor d.length) := rfl
  intro hmem
  obtain ⟨j, hj⟩ := List.getElem?_of_mem hmem
  rw [List.getElem?_drop, ← take_min_length, List.getElem?_take] at hj
  split at hj
  · -- The line after such a newline would start later, and still before the cursor.
    have hle := d.le_lineStart (d.isLineStart_of_newline hj) (Nat.succ_le_of_lt ‹_›)
    omega
  · simp at hj

/-! ### Lines that end at newlines alone -/

def otherLineBreaks : List Char := ['\r', '\x0b', '\x0c', '\u0085', '\u2028', '\u2029']

/-- The lines of a document end at newlines alone. -/
def HasPlainLines (d : Document) : Prop := ∀ c ∈ otherLineBreaks, c ∉ d.chars.toList

instance (d : Document) : Decidable d.HasPlainLines :=
  List.decidableBAll (· ∉ d.chars.toList) otherLineBreaks

theorem isLineBreak_iff {c : Char} : isLineBreak c = true ↔ c = '\n' ∨ c ∈ otherLineBreaks := by
  simp only [isLineBreak, otherLineBreaks, Bool.or_eq_true, beq_iff_eq, List.mem_cons,
    List.not_mem_nil, or_false, or_assoc]

/-- The text before the line of a cursor is empty or ends with a newline. -/
theorem HasPlainLines.front_eq {d : Document} (h : d.HasPlainLines) (cursor : Nat) :
    d.chars.toList.take (d.lineAt cursor).start = [] ∨
      ∃ front, d.chars.toList.take (d.lineAt cursor).start = front ++ ['\n'] := by
  cases hlast : (d.chars.toList.take (d.lineAt cursor).start).getLast? with
  | none => exact .inl (List.getLast?_eq_none_iff.mp hlast)
  | some c =>
    have hmem : c ∈ d.chars.toList := List.mem_of_mem_take (List.mem_of_getLast? hlast)
    rcases isLineBreak_iff.mp (d.isLineBreak_before_lineAt hlast) with rfl | hother
    · exact .inr (List.getLast?_eq_some_iff.mp hlast)
    · exact absurd hmem (h c hother)

end Document

end Autocomplete
