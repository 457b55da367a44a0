import Autocomplete.Proofs.Scan.Ahead
import Autocomplete.Proofs.Scan.Bracket
import Mathlib.Data.Set.Basic
import Mathlib.Order.Nat

/-!
# The depth of a bracket group

While a group is scanned, the number of open groups is the number of opening brackets read less
that of closing ones. It stays positive up to the first place where the two agree, and this place
ends the group, if the window reaches it.
-/

namespace Autocomplete
namespace Scan

variable {text : Array Char} {opening closing : Char} {start stop i : Nat}

/-- The offsets after the start of a window up to which it has as many opening brackets as closing
ones. -/
def balances (text : Array Char) (opening closing : Char) (w : Window) : Set Nat :=
  {e | w.start < e ∧ e ≤ w.stop ∧
    Window.count ⟨w.start, e⟩ text opening = Window.count ⟨w.start, e⟩ text closing}

/-- The number of groups open at `offset`, when the first of them opened at `start`. -/
def depthAt (text : Array Char) (opening closing : Char) (start offset : Nat) : Nat :=
  Window.count ⟨start, offset⟩ text opening - Window.count ⟨start, offset⟩ text closing

namespace Window

theorem slice_snoc (h : start ≤ stop) (text : Array Char) :
    (slice ⟨start, stop + 1⟩ text).toList =
      (slice ⟨start, stop⟩ text).toList ++ text[stop]?.toList := by
  have hlength : stop + 1 - start = stop - start + 1 := by omega
  have hoffset : start + (stop - start) = stop := by omega
  simp only [slice, Array.toList_extract, List.extract_eq_take_drop, hlength]
  rw [List.take_add_one, List.getElem?_drop, hoffset, Array.getElem?_toList]

theorem count_snoc (h : start ≤ stop) (text : Array Char) (c : Char) :
    count ⟨start, stop + 1⟩ text c =
      count ⟨start, stop⟩ text c + if text[stop]? = some c then 1 else 0 := by
  rw [count, slice_snoc h, List.count_append, count]
  cases text[stop]? with
  | none => simp
  | some d => by_cases hd : d = c <;> simp [hd]

end Window

/-- A group that fits into a window is one that opens at its start and ends at the first balance. -/
theorem isGroup_iff_isLeast (hstop : stop ≤ text.size) {e : Nat} :
    e ≤ stop ∧ IsGroup text opening closing ⟨start, e⟩ ↔
      text[start]? = some opening ∧ IsLeast (balances text opening closing ⟨start, stop⟩) e := by
  constructor
  · rintro ⟨hle, hgroup⟩
    refine ⟨hgroup.opens, ⟨hgroup.nonempty, hle, hgroup.balanced⟩, ?_⟩
    rintro i ⟨hlt, -, hbalanced⟩
    apply Nat.le_of_not_lt
    intro hinside
    exact hgroup.first i hlt hinside hbalanced
  · rintro ⟨hopen, ⟨hlt, hle, hbalanced⟩, hleast⟩
    refine ⟨hle, Nat.le_trans hle hstop, hlt, hopen, hbalanced, ?_⟩
    intro i hi hinside heq
    have hge : e ≤ i := hleast ⟨hi, Nat.le_trans (Nat.le_of_lt hinside) hle, heq⟩
    exact Nat.not_le_of_lt hinside hge

theorem groupEnd?_eq_some_iff_isLeast (hne : opening ≠ closing) (hstop : stop ≤ text.size)
    {e : Nat} :
    groupEnd? text opening closing start stop = some e ↔
      text[start]? = some opening ∧ IsLeast (balances text opening closing ⟨start, stop⟩) e := by
  rw [groupEnd?_eq_some_iff hne hstop, isGroup_iff_isLeast hstop]

theorem groupEnd?_eq_none_iff (hne : opening ≠ closing) (hstop : stop ≤ text.size) :
    groupEnd? text opening closing start stop = none ↔
      (text[start]? = some opening → balances text opening closing ⟨start, stop⟩ = ∅) := by
  classical
  constructor
  · intro hnone hopen
    rw [Set.eq_empty_iff_forall_notMem]
    intro i hi
    have hleast := Set.Nonempty.isLeast_natFind ⟨i, hi⟩
    have hsome := (groupEnd?_eq_some_iff_isLeast hne hstop).mpr ⟨hopen, hleast⟩
    rw [hnone] at hsome
    exact absurd hsome.symm (Option.some_ne_none _)
  · intro hempty
    rw [Option.eq_none_iff_forall_ne_some]
    intro e hsome
    obtain ⟨hopen, hleast, -⟩ := (groupEnd?_eq_some_iff_isLeast hne hstop).mp hsome
    rw [hempty hopen] at hleast
    exact hleast

theorem depthAfter_depthAt (hne : opening ≠ closing) (hle : start ≤ i)
    (hpos : 0 < depthAt text opening closing start i) :
    depthAfter text opening closing (depthAt text opening closing start i) i =
      depthAt text opening closing start (i + 1) := by
  unfold depthAt at hpos ⊢
  rw [Window.count_snoc hle, Window.count_snoc hle, depthAfter]
  by_cases hopen : text[i]? = some opening
  · rw [if_pos hopen, if_pos hopen, if_neg (not_closing_of_opening hne hopen)]
    omega
  · by_cases hclose : text[i]? = some closing
    · rw [if_neg hopen, if_pos hclose, if_neg hopen, if_pos hclose]
      omega
    · rw [if_neg hopen, if_neg hclose, if_neg hopen, if_neg hclose]
      omega

theorem depthAt_first (hne : opening ≠ closing) (hopen : text[start]? = some opening) :
    depthAt text opening closing start (start + 1) = 1 := by
  rw [depthAt, Window.count_snoc (Nat.le_refl start), Window.count_snoc (Nat.le_refl start),
    Window.count_empty, Window.count_empty, if_pos hopen,
    if_neg (not_closing_of_opening hne hopen)]

/-- One character closes one group at most, so a group stays open unless the brackets balance. -/
theorem depthAt_succ_pos (hlt : start < i) (hpos : 0 < depthAt text opening closing start i)
    (hunbalanced : i + 1 ∉ balances text opening closing ⟨start, i + 1⟩) :
    0 < depthAt text opening closing start (i + 1) := by
  have hopened := Window.count_snoc (Nat.le_of_lt hlt) text opening
  have hclosed := Window.count_snoc (Nat.le_of_lt hlt) text closing
  have hdiffer : Window.count ⟨start, i + 1⟩ text opening ≠
      Window.count ⟨start, i + 1⟩ text closing :=
    fun heq => hunbalanced ⟨Nat.lt_succ_of_lt hlt, Nat.le_refl _, heq⟩
  unfold depthAt at hpos ⊢
  split at hclosed <;> omega

theorem balances_subset (h : i ≤ stop) :
    balances text opening closing ⟨start, i⟩ ⊆ balances text opening closing ⟨start, stop⟩ := by
  rintro e ⟨hstart, hstop, hbalanced⟩
  exact ⟨hstart, Nat.le_trans hstop h, hbalanced⟩

/-- As long as the brackets do not balance, the scan goes on with the number of open groups, which
is positive. -/
theorem closingEnd?_eq_of_balances_eq_empty (hne : opening ≠ closing)
    (hopen : text[start]? = some opening) (hlt : start < i) (hle : i ≤ stop)
    (hempty : balances text opening closing ⟨start, i⟩ = ∅) :
    0 < depthAt text opening closing start i ∧
      closingEnd? text opening closing 1 (start + 1) (stop - (start + 1)) =
        closingEnd? text opening closing (depthAt text opening closing start i) i (stop - i) := by
  induction i, hlt using Nat.le_induction with
  | base =>
    rw [depthAt_first hne hopen]
    exact ⟨Nat.one_pos, rfl⟩
  | succ i hlt ih =>
    have hempty' := Set.subset_eq_empty (balances_subset (Nat.le_succ i)) hempty
    obtain ⟨hpos, hscan⟩ := ih (Nat.le_of_succ_le hle) hempty'
    have hunbalanced : i + 1 ∉ balances text opening closing ⟨start, i + 1⟩ := by
      rw [hempty]
      exact Set.notMem_empty _
    have hpos' := depthAt_succ_pos hlt hpos hunbalanced
    obtain ⟨count, hcount⟩ : ∃ count, stop - i = count + 1 := ⟨stop - i - 1, by omega⟩
    have hrest : stop - (i + 1) = count := by omega
    -- A group is still open after the character at `i`, so the scan does not end there.
    rw [hcount, closingEnd?_succ hpos, depthAfter_depthAt hne (Nat.le_of_lt hlt) hpos,
      if_neg (Nat.ne_of_gt hpos')] at hscan
    rw [hrest]
    exact ⟨hpos', hscan⟩

theorem scan_bracket_eq_hit_iff (hne : opening ≠ closing) {w hit : Window}
    (h : w.stop ≤ text.size) :
    (Probe.bracket opening closing).scan text w = .hit hit ↔
      hit.start = w.start ∧ text[w.start]? = some opening ∧
        IsLeast (balances text opening closing w) hit.stop := by
  obtain ⟨start, stop⟩ := w
  rw [scan_bracket, ← groupEnd?_eq_some_iff_isLeast hne h]
  cases hgroup : groupEnd? text opening closing start stop with
  | none => simp
  | some e =>
    simp only [Outcome.hit.injEq, Option.some.injEq]
    constructor
    · rintro rfl
      exact ⟨rfl, rfl⟩
    · rintro ⟨hstart, rfl⟩
      rw [← hstart]

theorem scan_bracket_eq_miss_iff (hne : opening ≠ closing) {w : Window} (h : w.Within text.size)
    {resume : Nat} :
    (Probe.bracket opening closing).scan text w = .miss resume ↔
      (w.start = w.stop ∨ text[w.start]? ≠ some opening) ∧ resume = w.start ∨
      (w.start < w.stop ∧ text[w.start]? = some opening) ∧
        balances text opening closing w = ∅ ∧ resume = w.stop := by
  obtain ⟨start, stop⟩ := w
  obtain ⟨hle, hstop⟩ := h
  simp only at hle hstop ⊢
  rw [scan_bracket, groupMissed]
  by_cases hopens : start < stop ∧ text[start]? = some opening
  · have hmissed : groupEnd? text opening closing start stop = none ↔
        balances text opening closing ⟨start, stop⟩ = ∅ := by
      rw [groupEnd?_eq_none_iff hne hstop, imp_iff_right hopens.2]
    have hinside : ¬(start = stop ∨ text[start]? ≠ some opening) := by
      rintro (heq | hother)
      · exact Nat.ne_of_lt hopens.1 heq
      · exact hother hopens.2
    rw [if_pos (by simpa using hopens), or_iff_right (fun hleft => hinside hleft.1),
      and_iff_right hopens, ← hmissed, eq_comm (b := stop)]
    cases groupEnd? text opening closing start stop <;> simp
  · have hmissed : groupEnd? text opening closing start stop = none :=
      if_neg (by simpa using hopens)
    have hoff : start = stop ∨ text[start]? ≠ some opening := by
      rcases Nat.eq_or_lt_of_le hle with heq | hlt
      · exact .inl heq
      · exact .inr fun hopen => hopens ⟨hlt, hopen⟩
    rw [hmissed, if_neg (by simpa using hopens), Outcome.miss.injEq]
    constructor
    · rintro rfl
      exact .inl ⟨hoff, rfl⟩
    · rintro (⟨-, rfl⟩ | ⟨hboth, -⟩)
      · rfl
      · exact absurd hboth hopens

/-- A window that begins with an opening bracket is hit up to the first place at which as many
brackets are closed as opened, and any other window is missed: at its start where no bracket opens,
at its end where the brackets do not balance. Up to that place the scan runs at a positive depth,
which is the number of open groups, and the depth is never lowered below zero. -/
theorem brackets_are_matched_exactly (hne : opening ≠ closing) (text : String) {w : Window}
    (h : w.Within text.length) :
    let chars := text.toList.toArray
    (∀ hit : Window, (Step.bracket opening closing).probe.scanIn text w = .ok (.hit hit) ↔
      hit.start = w.start ∧ chars[w.start]? = some opening ∧
        IsLeast (balances chars opening closing w) hit.stop) ∧
    (∀ resume, (Step.bracket opening closing).probe.scanIn text w = .ok (.miss resume) ↔
      (w.start = w.stop ∨ chars[w.start]? ≠ some opening) ∧ resume = w.start ∨
      (w.start < w.stop ∧ chars[w.start]? = some opening) ∧
        balances chars opening closing w = ∅ ∧ resume = w.stop) ∧
    (∀ i, w.start < i → i ≤ w.stop → chars[w.start]? = some opening →
      balances chars opening closing ⟨w.start, i⟩ = ∅ →
        0 < depthAt chars opening closing w.start i ∧
        closingEnd? chars opening closing 1 (w.start + 1) (w.stop - (w.start + 1)) =
          closingEnd? chars opening closing (depthAt chars opening closing w.start i) i
            (w.stop - i)) ∧
    (Step.bracket opening closing).probe.scanChecked chars w =
      some ((Step.bracket opening closing).probe.scan chars w) := by
  intro chars
  have hwithin : w.Within chars.size := by
    rw [List.size_toArray, String.length_toList]
    exact h
  have hscan := Probe.scanIn_of_within (Step.bracket opening closing).probe h
  refine ⟨?_, ?_, ?_, Probe.scanChecked_eq _ hwithin⟩
  · intro hit
    rw [hscan, Except.ok.injEq]
    exact scan_bracket_eq_hit_iff hne hwithin.2
  · intro resume
    rw [hscan, Except.ok.injEq]
    exact scan_bracket_eq_miss_iff hne hwithin
  · intro i hlt hle hopen hempty
    exact closingEnd?_eq_of_balances_eq_empty hne hopen hlt hle hempty

theorem brackets_are_matched_exactly_in_nested_group :
    ('(' ≠ ')' ∧ Window.Within ⟨1, 6⟩ "f((a)b".length ∧ Window.Within ⟨2, 6⟩ "f((a)b".length) ∧
    IsLeast (balances "f((a)b".toList.toArray '(' ')' ⟨2, 6⟩) 5 ∧
    balances "f((a)b".toList.toArray '(' ')' ⟨1, 6⟩ = ∅ ∧
    (Step.bracket '(' ')').probe.scanIn "f((a)b" ⟨1, 6⟩ = .ok (.miss 6) ∧
    0 < depthAt "f((a)b".toList.toArray '(' ')' 1 6 := by
  have hne : '(' ≠ ')' := by decide
  have hwithin : Window.Within ⟨1, 6⟩ "f((a)b".length := by decide
  have hwithin' : Window.Within ⟨2, 6⟩ "f((a)b".length := by decide
  obtain ⟨-, hmiss, hdepth, -⟩ := brackets_are_matched_exactly hne "f((a)b" hwithin
  obtain ⟨hhit, -⟩ := brackets_are_matched_exactly hne "f((a)b" hwithin'
  have hscan : (Step.bracket '(' ')').probe.scanIn "f((a)b" ⟨1, 6⟩ = .ok (.miss 6) := rfl
  have hscan' : (Step.bracket '(' ')').probe.scanIn "f((a)b" ⟨2, 6⟩ = .ok (.hit ⟨2, 5⟩) := rfl
  have hempty : balances "f((a)b".toList.toArray '(' ')' ⟨1, 6⟩ = ∅ := by
    rcases (hmiss 6).mp hscan with ⟨-, hstart⟩ | ⟨-, hempty, -⟩
    · exact absurd hstart (by decide)
    · exact hempty
  obtain ⟨hpos, -⟩ := hdepth 6 (by decide) (by decide) rfl hempty
  exact ⟨⟨hne, hwithin, hwithin'⟩, ((hhit ⟨2, 5⟩).mp hscan').2.2, hempty, hscan, hpos⟩

end Scan
end Autocomplete
