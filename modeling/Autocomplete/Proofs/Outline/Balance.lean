import Autocomplete.Proofs.Outline.Openers

/-!
# Open bodies and the balance of braces

Outlines never count braces. As long as each body that opens is closed by a lone brace at the
indentation of its opener, they need not: a dropped line then stands where the braces of a body are
still open. A body that is closed in another way, be it on its first line, stays open for good, and
lines far below it are dropped although they stand in no body at all.
-/

namespace Autocomplete
namespace Outline

open Text

/-- The opening braces less the closing ones. -/
def balance (ls : List (List Char)) : Int :=
  (ls.flatten.count '{' : Int) - ls.flatten.count '}'

/-- Counted from the opener on, braces are open at the end of its line and of each line since. -/
def BracesOpen (opener : List Char) (since : List (List Char)) : Prop :=
  ∀ part, part <+: since → 0 < balance (opener :: part)

/-- Counted from the opener on, no brace is open for the first time at the end of `body`. -/
structure Balances (opener : List Char) (body : List (List Char)) : Prop where
  balanced : balance (opener :: body) ≤ 0
  first : ∀ part, part <+: body → part ≠ body → 0 < balance (opener :: part)

/-- The last line of a body is a lone brace at the indentation of its opener. -/
def EndsInBrace (opener : List Char) (body : List (List Char)) : Prop :=
  ∃ closer, body.getLast? = some closer ∧ ClosesAt (indentation opener) closer

instance (opener : List Char) (since : List (List Char)) : Decidable (BracesOpen opener since) :=
  decidable_of_iff (∀ part ∈ since.inits, 0 < balance (opener :: part))
    (by simp only [BracesOpen, List.mem_inits])

section

variable {width : Nat} {line opener : List Char} {before pre since body : List (List Char)}

theorem balance_append (ls ls' : List (List Char)) :
    balance (ls ++ ls') = balance ls + balance ls' := by
  simp only [balance, List.flatten_append, List.count_append, Int.natCast_add]
  omega

theorem bracesOpen_append_singleton (h : BracesOpen opener since)
    (hline : 0 < balance (opener :: (since ++ [line]))) : BracesOpen opener (since ++ [line]) := by
  intro part hpart
  rcases List.prefix_concat_iff.mp hpart with rfl | hpart
  · exact hline
  · exact h part hpart

/-- The braces are open all along, or balanced a first time. -/
theorem bracesOpen_or_exists_balances (opener : List Char) (since : List (List Char)) :
    BracesOpen opener since ∨ ∃ body rest, since = body ++ rest ∧ Balances opener body := by
  induction since using List.reverseRecOn with
  | nil =>
    rcases Int.lt_or_le 0 (balance [opener]) with hopen | hbalanced
    · left
      intro part hpart
      rwa [List.prefix_nil.mp hpart]
    · refine .inr ⟨[], [], rfl, hbalanced, ?_⟩
      intro part hpart hne
      exact absurd (List.prefix_nil.mp hpart) hne
  | append_singleton since line ih =>
    rcases ih with hopen | ⟨body, rest, rfl, hbalances⟩
    · rcases Int.lt_or_le 0 (balance (opener :: (since ++ [line]))) with hline | hbalanced
      · exact .inl (bracesOpen_append_singleton hopen hline)
      · refine .inr ⟨since ++ [line], [], by simp, hbalanced, ?_⟩
        intro part hpart hne
        rcases List.prefix_concat_iff.mp hpart with heq | hpart
        · exact absurd heq hne
        · exact hopen part hpart
    · exact .inr ⟨body, rest ++ [line], by simp, hbalances⟩

theorem Balances.exists_inner {part later : List (List Char)} {inner : List Char}
    (h : Balances opener (part ++ inner :: later)) :
    ∃ body rest, later = body ++ rest ∧ Balances inner body := by
  rcases bracesOpen_or_exists_balances inner later with hopen | hbalances
  · have hne : part ≠ part ++ inner :: later := by simp
    have hbefore := h.first part (List.prefix_append _ _) hne
    have hinner := hopen later List.prefix_rfl
    have hwhole := h.balanced
    rw [← List.cons_append, balance_append] at hwhole
    omega
  · exact hbalances

/-- A body that is open although its braces are balanced was not closed by a lone brace, or holds
another one that was not. -/
theorem Lasts.exists_not_endsInBrace (h : Lasts width pre opener body)
    (hbalances : Balances opener body) :
    ∃ pre' opener' body', pre' ++ opener' :: body' <+: pre ++ opener :: body ∧
      Opens width pre' opener' ∧ Balances opener' body' ∧ ¬EndsInBrace opener' body' := by
  induction hn : body.length using Nat.strongRecOn generalizing pre opener body with
  | ind n ih =>
    by_cases hends : EndsInBrace opener body
    · obtain ⟨closer, hlast, hcloses⟩ := hends
      obtain ⟨start, rfl⟩ := List.getLast?_eq_some_iff.mp hlast
      obtain ⟨part, inner, later, rfl, hne, hinner⟩ := h.exists_other hcloses
      rw [List.append_assoc, List.cons_append] at hbalances
      obtain ⟨body', rest, hsplit, hbody'⟩ := hbalances.exists_inner
      rcases List.eq_nil_or_concat rest with rfl | ⟨rest, last, rfl⟩
      · -- The brace ends the inner body, too, but at another indentation.
        rw [List.append_nil] at hsplit
        subst hsplit
        refine ⟨pre ++ opener :: part, inner, later ++ [closer], by simp, hinner.opened, hbody', ?_⟩
        rintro ⟨closer', hlast', hcloses'⟩
        rw [List.getLast?_concat, Option.some.injEq] at hlast'
        subst hlast'
        exact hne (hcloses'.2.symm.trans hcloses.2)
      · -- The inner body is balanced earlier, and open all the same.
        rw [List.concat_eq_append, ← List.append_assoc] at hsplit
        obtain ⟨rfl, -⟩ := List.append_inj' hsplit rfl
        have hlength : body'.length < n := by
          simp at hn
          omega
        have hlasts := hinner.of_prefix (List.prefix_append body' rest)
        obtain ⟨pre', opener', body'', hprefix, hfound⟩ := ih body'.length hlength hlasts hbody' rfl
        exact ⟨pre', opener', body'', hprefix.trans ⟨rest ++ [closer], by simp⟩, hfound⟩
    · exact ⟨pre, opener, body, List.prefix_rfl, h.opened, hbalances, hends⟩

end

/-- A dropped line stands where the braces of an earlier body are open, counted from the opener of
the body on, unless the braces of some earlier body were balanced in another way than by a lone
brace at the indentation of its opener. -/
theorem dropped_lines_follow_open_braces {width : Nat} {before : List (List Char)}
    {line : List Char}
    (h : Drops width before line) :
    (∃ pre opener since, before = pre ++ opener :: since ∧
      (Opens width pre opener ∧ BracesOpen opener since)) ∨
    ∃ pre opener body, pre ++ opener :: body <+: before ∧ Opens width pre opener ∧
      Balances opener body ∧ ¬EndsInBrace opener body := by
  obtain ⟨pre, opener, since, rfl, hlasts, -, -⟩ := exists_opener_of_drops h
  rcases bracesOpen_or_exists_balances opener since with hopen | ⟨body, rest, rfl, hbalances⟩
  · exact .inl ⟨pre, opener, since, rfl, hlasts.opened, hopen⟩
  · have hlasts := hlasts.of_prefix (List.prefix_append body rest)
    obtain ⟨pre', opener', body', hprefix, hfound⟩ := hlasts.exists_not_endsInBrace hbalances
    exact .inr ⟨pre', opener', body', hprefix.trans ⟨rest, by simp⟩, hfound⟩

def bodySource : List (List Char) :=
  ["func area() \x7b", "    prepare()"].map String.toList

theorem dropped_lines_follow_open_braces_in_a_body :
    Drops 4 bodySource "    compute()".toList ∧
      ((∃ pre opener since, bodySource = pre ++ opener :: since ∧
        (Opens 4 pre opener ∧ BracesOpen opener since)) ∨
      ∃ pre opener body, pre ++ opener :: body <+: bodySource ∧ Opens 4 pre opener ∧
        Balances opener body ∧ ¬EndsInBrace opener body) := by
  have hdrops : Drops 4 bodySource "    compute()".toList := by decide +kernel
  exact ⟨hdrops, dropped_lines_follow_open_braces hdrops⟩

/-- A declaration after a body that is closed on its first line. -/
def oneLineSource : List (List Char) :=
  ["struct Box \x7b", "    func area() -> Int { return 1 }", "    struct Inner \x7b"].map
    String.toList

theorem one_line_body_hides_a_declaration :
    Drops 4 oneLineSource "        let size: Int".toList ∧
      ¬∃ pre opener since, oneLineSource = pre ++ opener :: since ∧
        (Opens 4 pre opener ∧ BracesOpen opener since) := by
  decide +kernel

end Outline
end Autocomplete
