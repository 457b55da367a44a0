import Autocomplete.Proofs.Text.Boundary
import Autocomplete.Proofs.Words.Windows
import Mathlib.Data.List.Induction
import Mathlib.Data.List.TakeWhile

/-!
# The longest runs of a text

The characters that are not of a kind cut a text into pieces, and the pieces that are not empty are
its longest runs of characters of that kind. A word made of word characters occurs whole exactly
where it is such a run, and what is found as its extension are the runs with one character more, all
of them, since two runs never overlap.
-/

namespace Autocomplete
namespace Text

section Runs

variable {p : Char → Bool} {run text : List Char}

/-- The longest runs of characters of one kind, from left to right. -/
def runs (p : Char → Bool) (text : List Char) : List (List Char) :=
  (text.splitOnP (!p ·)).filter (!·.isEmpty)

theorem runs_append_cons {c : Char} (hc : p c = false) (front back : List Char) :
    runs p (front ++ c :: back) = runs p front ++ runs p back := by
  rw [runs, List.splitOnP_append_cons front back (by simpa using hc), List.filter_append]
  rfl

theorem runs_of_forall (h : ∀ c ∈ run, p c = true) : runs p run = [run].filter (!·.isEmpty) := by
  have hwhole : run.splitOnP (!p ·) = [run] :=
    List.splitOnP_eq_singleton fun c hc => by simpa using h c hc
  rw [runs, hwhole]

theorem runs_append (h : ∀ c ∈ run, p c = true) (hrest : text.head?.any p = false) :
    runs p (run ++ text) = [run].filter (!·.isEmpty) ++ runs p text := by
  cases text with
  | nil =>
    rw [List.append_nil, runs_of_forall h]
    exact (List.append_nil _).symm
  | cons c text =>
    have hfront : runs p (c :: text) = runs p [] ++ runs p text := runs_append_cons hrest [] text
    rw [runs_append_cons hrest, runs_of_forall h, hfront]
    rfl

theorem takeWhile_append (h : ∀ c ∈ run, p c = true) (hrest : text.head?.any p = false) :
    (run ++ text).takeWhile p = run := by
  rw [List.takeWhile_append_of_pos h]
  cases text with
  | nil => exact List.append_nil run
  | cons c text => rw [List.takeWhile_cons_of_neg (by simpa using hrest), List.append_nil]

/-- A text is used up run by run: what holds of the empty text, and is kept by a run in front of a
character of another kind, holds of every text. -/
theorem runs_induction {motive : List Char → Prop}
    (last : ∀ run, (∀ c ∈ run, p c = true) → motive run)
    (more : ∀ run c rest, (∀ c ∈ run, p c = true) → p c = false → motive rest →
      motive (run ++ c :: rest)) (text : List Char) : motive text := by
  induction hn : text.length using Nat.strongRecOn generalizing text with
  | ind n ih =>
    have hsplit := List.takeWhile_append_dropWhile (p := p) (l := text)
    have hrun : ∀ c ∈ text.takeWhile p, p c = true := fun c hc => List.mem_takeWhile_imp hc
    cases hdrop : text.dropWhile p with
    | nil =>
      rw [hdrop, List.append_nil] at hsplit
      exact hsplit ▸ last _ hrun
    | cons c rest =>
      have hc : p c = false := by
        have := List.head?_dropWhile_not p text
        rw [hdrop] at this
        simpa using this
      have hlength := congrArg List.length hsplit
      rw [hdrop, List.length_append, List.length_cons] at hlength
      rw [← hsplit, hdrop]
      exact more _ c rest hrun hc (ih rest.length (by omega) rest rfl)

theorem mem_runs_iff :
    run ∈ runs p text ↔
      ∃ before after, text = before ++ (run ++ after) ∧ IsRun p before run after := by
  constructor
  · intro h
    induction text using runs_induction (p := p) with
    | last piece hpiece =>
      rw [runs_of_forall hpiece] at h
      obtain ⟨hmem, hne⟩ := List.mem_filter.mp h
      obtain rfl := List.mem_singleton.mp hmem
      exact ⟨[], [], by simp, by simpa using hne, List.all_eq_true.mpr hpiece, rfl, rfl⟩
    | more piece c rest hpiece hc ih =>
      rw [runs_append_cons hc, runs_of_forall hpiece, List.mem_append] at h
      rcases h with h | h
      · obtain ⟨hmem, hne⟩ := List.mem_filter.mp h
        obtain rfl := List.mem_singleton.mp hmem
        exact ⟨[], c :: rest, rfl, by simpa using hne, List.all_eq_true.mpr hpiece, rfl, hc⟩
      · obtain ⟨before, after, rfl, hrun⟩ := ih h
        refine ⟨piece ++ c :: before, after, by simp, hrun.nonempty, hrun.full, ?_, hrun.ends⟩
        -- What stands before the run is the character that parts it off, or is as it was.
        cases hlast : before.getLast? with
        | none => simpa [List.getLast?_append, List.getLast?_cons, hlast] using hc
        | some d => simpa [List.getLast?_append, List.getLast?_cons, hlast] using hrun.starts
  · rintro ⟨before, after, rfl, hne, hfull, hstarts, hends⟩
    have hrun : run ∈ runs p (run ++ after) := by
      rw [runs_append (List.all_eq_true.mp hfull) hends]
      exact List.mem_append_left _ (by simpa using hne)
    cases before using List.reverseRecOn with
    | nil => exact hrun
    | append_singleton front c =>
      have hc : p c = false := by simpa using hstarts
      rw [List.append_assoc, List.singleton_append, runs_append_cons hc]
      exact List.mem_append_right _ hrun

end Runs

section Words

variable {word text : List Char}

theorem whole_of_isRun {before run after : List Char} (h : IsRun isWideWordChar before run after) :
    Whole run (before ++ (run ++ after)) := by
  obtain ⟨hne, hfull, hstarts, hends⟩ := h
  rw [List.all_eq_true] at hfull
  have hfirst : isWideWordChar (run.head hne) = true := hfull _ (List.head_mem hne)
  have hlast : isWideWordChar (run.getLast hne) = true := hfull _ (List.getLast_mem hne)
  refine ⟨before, after, rfl, ?_, ?_⟩
  · simp [isBoundary, List.head?_eq_some_head hne, hfirst, hstarts]
  · simp [isBoundary, List.getLast?_eq_some_getLast hne, hlast, hends]

theorem whole_iff_mem_runs (hne : word ≠ []) (hword : ∀ c ∈ word, isWideWordChar c = true) :
    Whole word text ↔ word ∈ runs isWideWordChar text := by
  have hfirst : isWideWordChar (word.head hne) = true := hword _ (List.head_mem hne)
  have hlast : isWideWordChar (word.getLast hne) = true := hword _ (List.getLast_mem hne)
  rw [mem_runs_iff]
  constructor
  · rintro ⟨before, after, htext, hstarts, hends⟩
    refine ⟨before, after, htext, hne, List.all_eq_true.mpr hword, ?_, ?_⟩
    · simpa [isBoundary, List.head?_eq_some_head hne, hfirst] using hstarts
    · simpa [isBoundary, List.getLast?_eq_some_getLast hne, hlast] using hends
  · rintro ⟨before, after, rfl, hrun⟩
    exact whole_of_isRun hrun

/-! ### The extensions of a word -/

def OneLonger (word run : List Char) : Prop := ∃ c, run = word ++ [c]

theorem oneLonger_iff {word run : List Char} :
    OneLonger word run ↔ run ≠ [] ∧ run.dropLast = word := by
  constructor
  · rintro ⟨c, rfl⟩
    exact ⟨by simp, List.dropLast_concat⟩
  · rintro ⟨hne, rfl⟩
    exact ⟨run.getLast hne, (List.dropLast_append_getLast hne).symm⟩

instance decidableOneLonger (word run : List Char) : Decidable (OneLonger word run) :=
  decidable_of_iff _ oneLonger_iff.symm

theorem extensions_skip (word passed rest : List Char) (before : Option Char) :
    extensions word passed.length before (passed ++ rest) =
      extensions word 0 (passed.getLast?.or before) rest := by
  induction passed generalizing before with
  | nil => rw [List.getLast?_nil, Option.none_or]; rfl
  | cons c passed ih =>
    rw [getLast?_cons_or, ← ih (some c)]
    rfl

theorem extensions_of_extensionAt?_eq_none {before : Option Char} {c : Char} {rest : List Char}
    (h : extensionAt? word before (c :: rest) = none) :
    extensions word 0 before (c :: rest) = extensions word 0 (some c) rest := by
  rw [extensions, h]

section

variable (hne : word ≠ []) (hword : ∀ c ∈ word, isWideWordChar c = true)
include hne hword

theorem extensionAt?_eq_none {before : Option Char} {c : Char} {rest : List Char}
    (h : before.any isWideWordChar = true ∨ isWideWordChar c = false) :
    extensionAt? word before (c :: rest) = none := by
  rw [Option.eq_none_iff_forall_ne_some]
  intro d hd
  obtain ⟨-, back, htext, hfront, -⟩ := (extensionAt?_eq_some_iff hne).mp hd
  obtain ⟨first, word, rfl⟩ := List.exists_cons_of_ne_nil hne
  obtain rfl : c = first := (List.cons.inj htext).1
  have hfirst : isWideWordChar c = true := hword c List.mem_cons_self
  simp_all [isBoundary]

/-- Nothing is found from inside of a run on to its end. -/
theorem extensions_inside {run rest : List Char} {before : Option Char}
    (hbefore : before.any isWideWordChar = true) (hrun : ∀ c ∈ run, isWideWordChar c = true) :
    extensions word 0 before (run ++ rest) = extensions word 0 (run.getLast?.or before) rest := by
  induction run generalizing before with
  | nil => rw [List.getLast?_nil, Option.none_or]; rfl
  | cons c run ih =>
    rw [getLast?_cons_or, List.cons_append,
      extensions_of_extensionAt?_eq_none (extensionAt?_eq_none hne hword (.inl hbefore))]
    exact ih (hrun c List.mem_cons_self) fun d hd => hrun d (List.mem_cons_of_mem c hd)

theorem extensionAt?_run {run rest : List Char} {before : Option Char} {c : Char}
    (hbefore : before.any isWideWordChar = false) (hrun : ∀ c ∈ run, isWideWordChar c = true)
    (hrest : rest.head?.any isWideWordChar = false) :
    extensionAt? word before (run ++ rest) = some c ↔ run = word ++ [c] := by
  rw [extensionAt?_eq_some_iff hne]
  constructor
  · rintro ⟨hc, back, htext, -, hback⟩
    have hend : back.head?.any isWideWordChar = false := by simpa [isBoundary, hc] using hback
    have hlonger : ∀ d ∈ word ++ [c], isWideWordChar d = true := by
      simpa [or_imp, forall_and] using ⟨hword, hc⟩
    calc run = (run ++ rest).takeWhile isWideWordChar := (takeWhile_append hrun hrest).symm
      _ = (word ++ [c] ++ back).takeWhile isWideWordChar := by rw [htext]; simp
      _ = word ++ [c] := takeWhile_append hlonger hend
  · rintro rfl
    have hc : isWideWordChar c = true := hrun c (by simp)
    have hfirst : isWideWordChar (word.head hne) = true := hword _ (List.head_mem hne)
    refine ⟨hc, rest, by simp, ?_, ?_⟩
    · simp [isBoundary, hbefore, List.head?_eq_some_head hne, hfirst]
    · simp [isBoundary, hc, hrest]

theorem extensions_run {run rest : List Char} {before : Option Char}
    (hbefore : before.any isWideWordChar = false) (hrun : ∀ c ∈ run, isWideWordChar c = true)
    (hrest : rest.head?.any isWideWordChar = false) :
    extensions word 0 before (run ++ rest) =
      [run].filter (OneLonger word ·) ++ extensions word 0 (run.getLast?.or before) rest := by
  have hfound := fun c => extensionAt?_run hne hword (c := c) hbefore hrun hrest
  cases run with
  | nil =>
    have hshort : ¬OneLonger word [] := by simp [oneLonger_iff]
    rw [List.filter_cons_of_neg (by simpa using hshort), List.getLast?_nil, Option.none_or]
    rfl
  | cons a run =>
    rw [getLast?_cons_or, List.cons_append]
    cases hat : extensionAt? word before (a :: (run ++ rest)) with
    | none =>
      have hother : ¬OneLonger word (a :: run) := by
        rintro ⟨c, hc⟩
        have hsome : extensionAt? word before (a :: (run ++ rest)) = some c := (hfound c).mpr hc
        simp [hat] at hsome
      have ha : (some a).any isWideWordChar = true := hrun a List.mem_cons_self
      rw [List.filter_cons_of_neg (by simpa using hother), List.filter_nil, List.nil_append,
        extensions_of_extensionAt?_eq_none hat]
      exact extensions_inside hne hword ha fun d hd => hrun d (List.mem_cons_of_mem a hd)
    | some c =>
      have hrunEq : a :: run = word ++ [c] := (hfound c).mp hat
      have hlonger : OneLonger word (a :: run) := ⟨c, hrunEq⟩
      -- the hit takes up the run to its end: what is skipped is the rest of the run
      have hlength : run.length = word.length := by simpa using congrArg List.length hrunEq
      have hread : extensions word 0 before (a :: (run ++ rest)) =
          (a :: run) :: extensions word run.length (some a) (run ++ rest) := by
        rw [extensions, hat, hrunEq, hlength]
      rw [List.filter_cons_of_pos (by simpa using hlonger), hread, extensions_skip]
      rfl

/-- What is found are the longest runs that are the word with one more character. -/
theorem extensions_eq_filter_runs {text : List Char} {before : Option Char}
    (hbefore : before.any isWideWordChar = false) :
    extensions word 0 before text = (runs isWideWordChar text).filter (OneLonger word ·) := by
  have hpiece : ∀ piece : List Char,
      ([piece].filter (!·.isEmpty)).filter (OneLonger word ·) =
        [piece].filter (OneLonger word ·) := by
    intro piece
    rw [List.filter_filter]
    apply List.filter_congr
    intro run _
    simp only [oneLonger_iff]
    cases run <;> simp
  induction text using runs_induction (p := isWideWordChar) generalizing before with
  | last run hrun =>
    have hrest : ([] : List Char).head?.any isWideWordChar = false := rfl
    have hread := extensions_run hne hword hbefore hrun hrest
    rw [List.append_nil] at hread
    rw [hread, runs_of_forall hrun, hpiece]
    exact List.append_nil _
  | more run c rest hrun hc ih =>
    have hrest : (c :: rest).head?.any isWideWordChar = false := hc
    have hnone : extensionAt? word (run.getLast?.or before) (c :: rest) = none :=
      extensionAt?_eq_none hne hword (.inr hc)
    have hlater : extensions word 0 (some c) rest =
        (runs isWideWordChar rest).filter (OneLonger word ·) := ih hc
    rw [extensions_run hne hword hbefore hrun hrest, extensions_of_extensionAt?_eq_none hnone,
      hlater, runs_append_cons hc, runs_of_forall hrun, List.filter_append, hpiece]

end

end Words

end Text
end Autocomplete
