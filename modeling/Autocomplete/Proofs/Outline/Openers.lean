import Autocomplete.Proofs.Outline.Bodies
import Mathlib.Data.List.Infix

/-!
# Openers of bodies

Every body that is open was opened by an earlier line, its opener, and all bodies around it have
been open since. Only a lone brace at the indentation of the opener closes the body, and even such a
brace does not where a body of another indentation is open inside it.
-/

namespace Autocomplete

section

variable {α : Type} {P : List α → α → List α → Prop} {l : List α}

theorem exists_split_iff :
    (∃ pre a post, l = pre ++ a :: post ∧ P pre a post) ↔
      ∃ i, ∃ h : i < l.length, P (l.take i) l[i] (l.drop (i + 1)) := by
  constructor
  · rintro ⟨pre, a, post, rfl, h⟩
    refine ⟨pre.length, by simp, ?_⟩
    simpa using h
  · rintro ⟨i, hi, h⟩
    exact ⟨l.take i, l[i], l.drop (i + 1), by simp, h⟩

instance decidableExistsSplit [∀ pre a post, Decidable (P pre a post)] :
    Decidable (∃ pre a post, l = pre ++ a :: post ∧ P pre a post) :=
  decidable_of_iff _ exists_split_iff.symm

end

namespace Outline

open Text

/-- A closing brace alone on a line of the given indentation. -/
def ClosesAt (indent : Nat) (line : List Char) : Prop :=
  isLoneBrace line = true ∧ indentation line = indent

instance (indent : Nat) (line : List Char) : Decidable (ClosesAt indent line) :=
  inferInstanceAs (Decidable (_ ∧ _))

/-- The line, which follows the lines `before`, is kept and opens a body. -/
structure Opens (width : Nat) (before : List (List Char)) (opener : List Char) : Prop where
  kept : ¬Drops width before opener
  opens : opensBody opener = true

instance (width : Nat) (before : List (List Char)) (opener : List Char) :
    Decidable (Opens width before opener) :=
  decidable_of_iff (¬Drops width before opener ∧ opensBody opener = true)
    ⟨fun h => ⟨h.1, h.2⟩, fun h => ⟨h.kept, h.opens⟩⟩

/-- The body that `opener` opened after the lines `before` is open after the lines `since`. -/
structure Lasts (width : Nat) (before : List (List Char)) (opener : List Char)
    (since : List (List Char)) : Prop where
  opened : Opens width before opener
  intact : ∀ part, part <+: since →
    openAfter width (before ++ [opener]) <:+ openAfter width (before ++ opener :: part)

section

variable {width indent : Nat} {opened below : List Nat} {line opener : List Char}
  {before since : List (List Char)}

/-! ### Lone braces open nothing -/

theorem opensBodyAfter_eq_false (h : ∀ c ∈ line, c ≠ 'f' ∧ c ≠ 'i') (previous : Option Char) :
    opensBodyAfter previous line = false := by
  induction line generalizing previous with
  | nil => rfl
  | cons c rest ih =>
    obtain ⟨⟨hf, hi⟩, hrest⟩ := List.forall_mem_cons.mp h
    have hhead : afterCallHead? (c :: rest) = none := by
      unfold afterCallHead?
      split <;> simp_all
    rw [opensBodyAfter, hhead, ih hrest]
    simp

theorem ClosesAt.opensBody_eq_false (h : ClosesAt indent line) : opensBody line = false := by
  have htrim : trim line = ['}'] := by simpa [isLoneBrace] using h.1
  apply opensBodyAfter_eq_false
  intro c hc
  rcases mem_trim_or_isBlank hc with hc | hblank
  · rw [htrim, List.mem_singleton] at hc
    subst hc
    decide
  · constructor <;> rintro rfl <;> exact absurd hblank (by decide)

/-! ### Every open body has an opener -/

theorem Opens.openAfter_eq (h : Opens width before opener) :
    openAfter width (before ++ [opener]) =
      indentation opener :: openAt (openAfter width before) opener := by
  have houtside : isInside width (openAt (openAfter width before) opener) opener = false := by
    simpa [drops_iff] using h.kept
  rw [openAfter_append_singleton, next, houtside, h.opens]
  simp

theorem Opens.lasts (h : Opens width before opener) : Lasts width before opener [] where
  opened := h
  intact part hpart := by
    rw [List.prefix_nil.mp hpart]

theorem Lasts.append_singleton (h : Lasts width before opener since)
    (hline : openAfter width (before ++ [opener]) <:+
      openAfter width (before ++ opener :: (since ++ [line]))) :
    Lasts width before opener (since ++ [line]) where
  opened := h.opened
  intact part hpart := by
    rcases List.prefix_concat_iff.mp hpart with rfl | hpart
    · exact hline
    · exact h.intact part hpart

theorem Lasts.of_prefix {part : List (List Char)} (h : Lasts width before opener since)
    (hpart : part <+: since) : Lasts width before opener part where
  opened := h.opened
  intact start hstart := h.intact start (hstart.trans hpart)

theorem suffix_next (h : indent :: below <:+ next width opened line) :
    indent :: below <:+ opened ∨
      isInside width (openAt opened line) line = false ∧ opensBody line = true ∧
        indentation line = indent ∧ next width opened line = indent :: below := by
  have hopen : openAt opened line <:+ opened := openAt_suffix opened line
  cases hinside : isInside width (openAt opened line) line with
  | true =>
    rw [next, if_pos hinside] at h
    exact .inl (h.trans hopen)
  | false =>
    cases hopens : opensBody line with
    | false =>
      rw [next, hinside, hopens] at h
      exact .inl (h.trans hopen)
    | true =>
      have hnext : next width opened line = indentation line :: openAt opened line := by
        rw [next, hinside, hopens]
        rfl
      rw [hnext] at h ⊢
      rcases List.suffix_cons_iff.mp h with heq | hlater
      · exact .inr ⟨rfl, rfl, (List.cons.inj heq).1.symm, heq.symm⟩
      · exact .inl (hlater.trans hopen)

/-- A body that is open now and was not so earlier was opened by a line since, and has been open
from that line on. -/
theorem exists_opener (hbelow : (openAfter width before).length ≤ below.length)
    (h : indent :: below <:+ openAfter width (before ++ since)) :
    ∃ part opener later, since = part ++ opener :: later ∧ indentation opener = indent ∧
      Lasts width (before ++ part) opener later ∧
      openAfter width (before ++ part ++ [opener]) = indent :: below := by
  induction since using List.reverseRecOn with
  | nil =>
    have hlength := h.length_le
    rw [List.append_nil, List.length_cons] at hlength
    omega
  | append_singleton since line ih =>
    have hlast := h
    rw [← List.append_assoc, openAfter_append_singleton] at h
    rcases suffix_next h with hearlier | ⟨houtside, hopens, hindent, hnext⟩
    · obtain ⟨part, opener, later, rfl, hindent, hlasts, hopened⟩ := ih hearlier
      refine ⟨part, opener, later ++ [line], by simp, hindent, hlasts.append_singleton ?_, hopened⟩
      rw [hopened]
      simpa using hlast
    · have hkept : Opens width (before ++ since) line :=
        ⟨by simp [drops_iff, houtside], hopens⟩
      refine ⟨since, line, [], rfl, hindent, hkept.lasts, ?_⟩
      rw [openAfter_append_singleton, hnext]

theorem exists_inner (hbelow : (openAfter width (before ++ [opener])).length ≤ below.length)
    (h : indent :: below <:+ openAfter width (before ++ opener :: since)) :
    ∃ part inner later, since = part ++ inner :: later ∧ indentation inner = indent ∧
      Lasts width (before ++ opener :: part) inner later := by
  have hinner : indent :: below <:+ openAfter width (before ++ [opener] ++ since) := by
    rwa [List.append_assoc, List.singleton_append]
  obtain ⟨part, inner, later, hsplit, heq, hlasts, -⟩ := exists_opener hbelow hinner
  rw [List.append_assoc, List.singleton_append] at hlasts
  exact ⟨part, inner, later, hsplit, heq, hlasts⟩

/-! ### What a lone brace closes -/

theorem openAt_suffix_next (width : Nat) (opened : List Nat) (line : List Char) :
    openAt opened line <:+ next width opened line := by
  unfold next
  dsimp only
  split
  · exact List.suffix_rfl
  · split
    · exact List.suffix_cons _ _
    · exact List.suffix_rfl

theorem ClosesAt.openAt_eq (h : ClosesAt indent line) :
    openAt opened line = opened.dropWhile (· == indent) := by
  rw [openAt, if_pos h.1, h.2]

theorem ClosesAt.next_eq (h : ClosesAt indent line) :
    next width opened line = opened.dropWhile (· == indent) := by
  rw [next, h.openAt_eq, h.opensBody_eq_false]
  simp

/-- Only a lone brace at its indentation closes a body. -/
theorem suffix_openAt_of_not_closesAt (h : ¬ClosesAt indent line)
    (hopen : indent :: below <:+ opened) : indent :: below <:+ openAt opened line := by
  unfold openAt
  split
  · rename_i hbrace
    have hne : indent ≠ indentation line := fun heq => h ⟨hbrace, heq.symm⟩
    obtain ⟨above, rfl⟩ := hopen
    rw [List.dropWhile_append]
    split
    · rw [List.dropWhile_cons_of_neg (by simpa using hne)]
    · exact List.suffix_append _ _
  · exact hopen

theorem Opens.lasts_of_not_closesAt (h : Opens width before opener)
    (hsince : ∀ l ∈ since, ¬ClosesAt (indentation opener) l) : Lasts width before opener since := by
  induction since using List.reverseRecOn with
  | nil => exact h.lasts
  | append_singleton since line ih =>
    obtain ⟨hsince, hline⟩ := List.forall_mem_append.mp hsince
    have hlasts := ih hsince
    have hopen := hlasts.intact since List.prefix_rfl
    apply hlasts.append_singleton
    rw [h.openAfter_eq] at hopen ⊢
    rw [← List.cons_append, ← List.append_assoc, openAfter_append_singleton]
    have hstays := suffix_openAt_of_not_closesAt (hline line (List.mem_singleton.mpr rfl)) hopen
    exact hstays.trans (openAt_suffix_next width _ line)

/-- Where a brace fails to close a body of its indentation, one of another indentation is open
inside it. -/
theorem Lasts.exists_other {closer : List Char} (h : Lasts width before opener (since ++ [closer]))
    (hcloser : ClosesAt (indentation opener) closer) :
    ∃ part inner later, since = part ++ inner :: later ∧ indentation inner ≠ indentation opener ∧
      Lasts width (before ++ opener :: part) inner later := by
  obtain ⟨above, habove⟩ := h.intact since (List.prefix_append since [closer])
  have hother : ∃ indent ∈ above, indent ≠ indentation opener := by
    by_contra hnone
    -- Bodies inside that all have the same indentation are closed, and this one with them.
    have hsame : ∀ indent ∈ above, (indent == indentation opener) = true := by
      intro indent hmem
      by_contra hne
      exact hnone ⟨indent, hmem, by simpa using hne⟩
    have hclosed : openAfter width (before ++ opener :: (since ++ [closer])) =
        (openAt (openAfter width before) opener).dropWhile (· == indentation opener) := by
      rw [← List.cons_append, ← List.append_assoc, openAfter_append_singleton, hcloser.next_eq,
        ← habove, List.dropWhile_append_of_pos hsame, h.opened.openAfter_eq,
        List.dropWhile_cons_of_pos (by simp)]
    have hlast := (h.intact (since ++ [closer]) List.prefix_rfl).length_le
    have hrest := (List.dropWhile_suffix (l := openAt (openAfter width before) opener)
      (· == indentation opener)).length_le
    rw [hclosed, h.opened.openAfter_eq, List.length_cons] at hlast
    omega
  obtain ⟨indent, hmem, hne⟩ := hother
  obtain ⟨outer, between, rfl⟩ := List.append_of_mem hmem
  have hinner : indent :: (between ++ openAfter width (before ++ [opener])) <:+
      openAfter width (before ++ opener :: since) := by
    rw [← habove]
    simp
  obtain ⟨part, inner, later, hsplit, heq, hlasts⟩ := exists_inner (by simp) hinner
  exact ⟨part, inner, later, hsplit, heq ▸ hne, hlasts⟩

theorem exists_opener_of_drops (h : Drops width before line) :
    ∃ pre opener since, before = pre ++ opener :: since ∧ Lasts width pre opener since ∧
      indentation opener + width ≤ indentation line ∧ ¬ClosesAt (indentation opener) line := by
  have hinside := drops_iff.mp h
  have hsame := (stacked_openAfter width before).openAt_of_inside hinside
  rw [hsame] at hinside
  cases hopen : openAfter width before with
  | nil => simp [isInside, hopen] at hinside
  | cons indent below =>
    rw [hopen] at hsame hinside
    have hdeep : indent + width ≤ indentation line := by simpa [isInside] using hinside
    have hinner : indent :: below <:+ openAfter width ([] ++ before) := by
      rw [List.nil_append, hopen]
    obtain ⟨pre, opener, since, hsplit, rfl, hlasts, -⟩ := exists_opener (Nat.zero_le _) hinner
    refine ⟨pre, opener, since, hsplit, hlasts, hdeep, ?_⟩
    intro hcloses
    rw [hcloses.openAt_eq, List.dropWhile_cons_of_pos (by simp)] at hsame
    have hlength := (List.dropWhile_suffix (l := below) (· == indentation opener)).length_le
    rw [hsame, List.length_cons] at hlength
    omega

end

end Outline
end Autocomplete
