import Autocomplete.Proofs.Scan.Bracket
import Mathlib.Data.List.Infix

/-!
# Probes and the pieces of a text

A text may be known as a row of pieces: an identifier, some spaces, a group in brackets. A probe
that is tried at a place sees what is left of the text there, and it hits the next piece when that
is what it looks for and the piece after it does not go on in the same way. All statements are about
the pieces; the offsets at which they stand are worked out here and do not occur later on.
-/

namespace Autocomplete
namespace Scan

open Text

/-- The offset at which `ahead` is what is left of a text. -/
def place (text : Array Char) (ahead : List Char) : Nat := text.size - ahead.length

/-- A name: a nonempty row of name characters. -/
structure Identifier where
  chars : List Char
  nonempty : chars ≠ [] := by decide
  isName : chars.all isNameChar = true := by decide

namespace Identifier

def text (i : Identifier) : String := String.ofList i.chars

theorem isNameChar_of_mem (i : Identifier) {c : Char} (h : c ∈ i.chars) : isNameChar c = true :=
  List.all_eq_true.mp i.isName c h

theorem not_mem (i : Identifier) {c : Char} (h : isNameChar c = false) : c ∉ i.chars := by
  intro hmem
  exact absurd (h.symm.trans (i.isNameChar_of_mem hmem)) Bool.false_ne_true

theorem head_append (i : Identifier) {p : Char → Bool}
    (hp : ∀ c, isNameChar c = true → p c = false) (left : List Char) :
    (i.chars ++ left).head?.any p = false := by
  obtain ⟨c, chars, hchars⟩ := List.exists_cons_of_ne_nil i.nonempty
  have hmem : c ∈ i.chars := hchars ▸ List.mem_cons_self
  rw [hchars, List.cons_append, List.head?_cons, Option.any_some]
  exact hp c (i.isNameChar_of_mem hmem)

theorem append_ne_nil (i : Identifier) (left : List Char) : i.chars ++ left ≠ [] := by
  simp [i.nonempty]

end Identifier

section Places

variable {text : Array Char} {ahead left piece : List Char} {c : Char}

theorem length_le_of_suffix (h : ahead <:+ text.toList) : ahead.length ≤ text.size := by
  rw [← Array.length_toList]
  exact h.length_le

theorem place_le (text : Array Char) (ahead : List Char) : place text ahead ≤ text.size :=
  Nat.sub_le _ _

theorem place_nil (text : Array Char) : place text [] = text.size := rfl

theorem place_toArray (ahead : List Char) : place ahead.toArray ahead = 0 := by
  simp [place]

theorem place_append (h : piece ++ left <:+ text.toList) :
    place text (piece ++ left) + piece.length = place text left := by
  have hle := length_le_of_suffix h
  rw [List.length_append] at hle
  rw [place, place, List.length_append]
  omega

theorem place_cons (h : c :: left <:+ text.toList) :
    place text (c :: left) + 1 = place text left := by
  have hpiece : [c] ++ left <:+ text.toList := h
  exact place_append hpiece

theorem place_lt (h : ahead <:+ text.toList) (hne : ahead ≠ []) : place text ahead < text.size := by
  have hle := length_le_of_suffix h
  have hpos := List.length_pos_iff.mpr hne
  rw [place]
  omega

theorem place_le_place (h : left <:+ ahead) : place text ahead ≤ place text left := by
  have hle := h.length_le
  rw [place, place]
  omega

theorem getElem?_place_add (h : ahead <:+ text.toList) (i : Nat) :
    text[place text ahead + i]? = ahead[i]? := by
  obtain ⟨front, hfront⟩ := h
  have hplace : place text ahead = front.length := by
    rw [place, ← Array.length_toList, ← hfront, List.length_append, Nat.add_sub_cancel]
  rw [hplace, ← Array.getElem?_toList, ← hfront, List.getElem?_append_right (Nat.le_add_right _ _),
    Nat.add_sub_cancel_left]

theorem getElem?_place (h : c :: left <:+ text.toList) :
    text[place text (c :: left)]? = some c :=
  getElem?_place_add h 0

theorem slice_place_add (h : ahead <:+ text.toList) (n : Nat) :
    (Window.slice ⟨place text ahead, place text ahead + n⟩ text).toList = ahead.take n := by
  obtain ⟨front, hfront⟩ := h
  have hplace : place text ahead = front.length := by
    rw [place, ← Array.length_toList, ← hfront, List.length_append, Nat.add_sub_cancel]
  rw [Window.slice, Array.toList_extract, List.extract_eq_take_drop, hplace, ← hfront,
    List.drop_left, Nat.add_sub_cancel_left]

/-- The text between two places is the piece that is left at the first and not at the second. -/
theorem slice_place (h : piece ++ left <:+ text.toList) :
    Window.slice ⟨place text (piece ++ left), place text left⟩ text = piece.toArray := by
  apply Array.toList_inj.mp
  rw [← place_append h, slice_place_add h, List.take_left]

theorem suffix_of_append (h : piece ++ left <:+ text.toList) : left <:+ text.toList :=
  (List.suffix_append piece left).trans h

theorem suffix_of_cons (h : c :: left <:+ text.toList) : left <:+ text.toList :=
  (List.suffix_cons c left).trans h

end Places

namespace Probe

/-- Where `gap ++ (hit ++ left)` is left of a text, the probe passes over the gap and hits the
piece after it. -/
def Hits (p : Probe) (gap hit left : List Char) : Prop :=
  ∀ text : Array Char, gap ++ (hit ++ left) <:+ text.toList →
    p.scan text ⟨place text (gap ++ (hit ++ left)), text.size⟩ =
      .hit ⟨place text (hit ++ left), place text left⟩

/-- Where `ahead` is left of a text, the probe misses, and a search goes on where `left` is. -/
def Misses (p : Probe) (ahead left : List Char) : Prop :=
  ∀ text : Array Char, ahead <:+ text.toList →
    p.scan text ⟨place text ahead, text.size⟩ = .miss (place text left)

end Probe

/-! ### Runs and words -/

section Runs

variable {text : Array Char} {p : Char → Bool} {run left : List Char}

theorem runEnd_place (h : run ++ left <:+ text.toList) (hrun : run.all p = true)
    (hleft : left.head?.any p = false) :
    runEnd (charAtSatisfies text p) (place text (run ++ left)) text.size = place text left := by
  have hplace := place_append h
  apply runEnd_unique (by omega) (place_le text left)
  · intro i hle hlt
    obtain ⟨k, rfl⟩ := Nat.exists_eq_add_of_le hle
    have hk : k < run.length := by omega
    rw [charAtSatisfies, getElem?_place_add h, List.getElem?_append_left hk,
      List.getElem?_eq_getElem hk]
    exact List.all_eq_true.mp hrun _ (List.getElem_mem hk)
  · intro _
    have hhead := getElem?_place_add (suffix_of_append h) 0
    rw [Nat.add_zero, ← List.head?_eq_getElem?] at hhead
    rw [charAtSatisfies, hhead, hleft]

theorem Probe.scan_run {kind : CharKind} (hkind : ∀ isFirst c, kind.accepts isFirst c = p c)
    (mayBeEmpty : Bool) (h : run ++ left <:+ text.toList) (hrun : run.all p = true)
    (hleft : left.head?.any p = false) :
    (Probe.run kind mayBeEmpty).scan text ⟨place text (run ++ left), text.size⟩ =
      if run.isEmpty && !mayBeEmpty then .miss (place text left)
      else .hit ⟨place text (run ++ left), place text left⟩ := by
  have hparts : (fun i => charAtSatisfies text (kind.accepts (i == place text (run ++ left))) i) =
      charAtSatisfies text p := by
    funext i
    rw [funext (hkind _)]
  have hplace := place_append h
  have hempty : decide (place text left = place text (run ++ left)) = run.isEmpty := by
    cases run with
    | nil => simp
    | cons c run =>
      rw [List.length_cons] at hplace
      rw [List.isEmpty_cons, decide_eq_false_iff_not]
      omega
  have hscan : (Probe.run kind mayBeEmpty).scan text ⟨place text (run ++ left), text.size⟩ =
      if place text left = place text (run ++ left) && !mayBeEmpty then
        .miss (place text (run ++ left))
      else .hit ⟨place text (run ++ left), place text left⟩ := by
    rw [Probe.scan]
    dsimp only
    rw [hparts, runEnd_place h hrun hleft]
  rw [hscan, hempty]
  cases run <;> rfl

theorem Probe.hits_run {kind : CharKind} (hkind : ∀ isFirst c, kind.accepts isFirst c = p c)
    {mayBeEmpty : Bool} (hne : run ≠ [] ∨ mayBeEmpty = true) (hrun : run.all p = true)
    (hleft : left.head?.any p = false) : (Probe.run kind mayBeEmpty).Hits [] run left := by
  intro text h
  have hkept : (run.isEmpty && !mayBeEmpty) = false := by
    rcases hne with hne | rfl
    · simp [hne]
    · simp
  rw [List.nil_append] at h ⊢
  rw [Probe.scan_run hkind mayBeEmpty h hrun hleft, hkept, if_neg Bool.false_ne_true]

theorem Probe.misses_run {kind : CharKind} (hkind : ∀ isFirst c, kind.accepts isFirst c = p c)
    (hleft : left.head?.any p = false) : (Probe.run kind false).Misses left left := by
  intro text h
  have hnone : ([] : List Char) ++ left <:+ text.toList := h
  have hscan := Probe.scan_run hkind false hnone rfl hleft
  rw [List.isEmpty_nil, Bool.not_false, Bool.and_self, if_pos rfl] at hscan
  exact hscan

theorem Probe.hits_spaces (hrun : run.all isScanSpace = true)
    (hleft : left.head?.any isScanSpace = false) : (Probe.run .space true).Hits [] run left :=
  Probe.hits_run (fun _ _ => rfl) (.inr rfl) hrun hleft

theorem Probe.hits_word (i : Identifier) (hleft : left.head?.any isNameChar = false) :
    (Probe.run .word false).Hits [] i.chars left :=
  Probe.hits_run (fun _ _ => rfl) (.inl i.nonempty) i.isName hleft

theorem Probe.misses_word (hleft : left.head?.any isNameChar = false) :
    (Probe.run .word false).Misses left left :=
  Probe.misses_run (fun _ _ => rfl) hleft

/-- A word after spaces. -/
theorem Probe.hits_spacedWord {gap : List Char} (hgap : gap.all (· == ' ') = true) (i : Identifier)
    (hleft : left.head?.any isNameChar = false) : Probe.spacedWord.Hits gap i.chars left := by
  intro text h
  have hspace : (i.chars ++ left).head?.any (· == ' ') = false := by
    apply i.head_append
    intro c hc
    rw [beq_eq_false_iff_ne]
    rintro rfl
    exact absurd hc (by decide)
  have hlater := suffix_of_append h
  have hpos := List.length_pos_iff.mpr i.nonempty
  have hplace := place_append hlater
  have hfirst := runEnd_place h hgap hspace
  have hsecond := runEnd_place hlater i.isName hleft
  rw [Probe.scan]
  dsimp only
  rw [hfirst, hsecond, if_neg (by omega)]

theorem Probe.misses_spacedWord (hspace : left.head?.any (· == ' ') = false)
    (hleft : left.head?.any isNameChar = false) : Probe.spacedWord.Misses left left := by
  intro text h
  have hnone : ([] : List Char) ++ left <:+ text.toList := h
  have hfirst := runEnd_place hnone rfl hspace
  have hsecond := runEnd_place hnone rfl hleft
  rw [List.nil_append] at hfirst hsecond
  rw [Probe.scan]
  dsimp only
  rw [hfirst, hsecond, if_pos rfl]

end Runs

/-! ### Bracket groups -/

/-- As many brackets are closed as are opened, and never more. -/
structure Balanced (opening closing : Char) (piece : List Char) : Prop where
  count_eq : piece.count opening = piece.count closing
  count_le : ∀ front, front <+: piece → front.count closing ≤ front.count opening

instance (opening closing : Char) (piece : List Char) :
    Decidable (Balanced opening closing piece) :=
  decidable_of_iff (piece.count opening = piece.count closing ∧
      ∀ front ∈ piece.inits, front.count closing ≤ front.count opening)
    ⟨fun ⟨heq, hle⟩ => ⟨heq, fun front hfront =>
        hle front ((List.mem_inits front piece).mpr hfront)⟩,
      fun h => ⟨h.count_eq, fun front hfront =>
        h.count_le front ((List.mem_inits front piece).mp hfront)⟩⟩

section Groups

variable {opening closing : Char} {inside left : List Char}

theorem balanced_of_not_mem (hopening : opening ∉ inside) (hclosing : closing ∉ inside) :
    Balanced opening closing inside := by
  refine ⟨?_, fun front hfront => ?_⟩
  · rw [List.count_eq_zero_of_not_mem hopening, List.count_eq_zero_of_not_mem hclosing]
  · have hfront : closing ∉ front := fun hmem => hclosing (hfront.subset hmem)
    rw [List.count_eq_zero_of_not_mem hfront]
    exact Nat.zero_le _

theorem Balanced.isGroup (h : Balanced opening closing inside) (hne : opening ≠ closing)
    {text : Array Char} (hsuffix : opening :: (inside ++ closing :: left) <:+ text.toList) :
    IsGroup text opening closing
      ⟨place text (opening :: (inside ++ closing :: left)), place text left⟩ := by
  have hpiece : (opening :: (inside ++ [closing])) ++ left =
      opening :: (inside ++ closing :: left) := by simp
  have hplace := place_append (hpiece ▸ hsuffix)
  have hslice := slice_place (hpiece ▸ hsuffix)
  rw [hpiece] at hplace hslice
  rw [List.length_cons, List.length_append, List.length_singleton] at hplace
  refine ⟨place_le text left, by simp only; omega, getElem?_place hsuffix, ?_, ?_⟩
  · rw [Window.count, Window.count, hslice]
    simp [List.count_append, h.count_eq, hne, Ne.symm hne]
  · intro i hi hlt
    obtain ⟨n, rfl⟩ : ∃ n, i = place text (opening :: (inside ++ closing :: left)) + (n + 1) :=
      ⟨i - place text (opening :: (inside ++ closing :: left)) - 1, by dsimp only at hi; omega⟩
    have hn : n ≤ inside.length := by
      dsimp only at hlt
      omega
    -- Before the end the first bracket is open still, as the piece in between closes no other.
    have hle := h.count_le (inside.take n) (List.take_prefix n inside)
    rw [Window.count, Window.count, slice_place_add hsuffix, List.take_succ_cons,
      List.take_append_of_le_length hn]
    simp [hne]
    omega

theorem Probe.hits_bracket (h : Balanced opening closing inside) (hne : opening ≠ closing) :
    (Probe.bracket opening closing).Hits [] (opening :: (inside ++ [closing])) left := by
  intro text hsuffix
  have hpiece : (opening :: (inside ++ [closing])) ++ left =
      opening :: (inside ++ closing :: left) := by simp
  rw [List.nil_append, hpiece] at hsuffix ⊢
  have hgroup := h.isGroup hne hsuffix
  have hend := (groupEnd?_eq_some_iff hne (Nat.le_refl text.size)).mpr ⟨hgroup.within, hgroup⟩
  rw [scan_bracket, hend]

end Groups

/-! ### Literals -/

/-- None of the literals begins in `gap` when `left` follows it. -/
def Silent (literals : List (List Char)) : (gap left : List Char) → Prop
  | [], _ => True
  | c :: gap, left =>
    (∀ literal ∈ literals, ¬literal <+: c :: (gap ++ left)) ∧ Silent literals gap left

section Literals

variable {literals : List (List Char)} {gap left : List Char}

theorem silent_append {gap' : List Char} (h : Silent literals gap (gap' ++ left))
    (h' : Silent literals gap' left) : Silent literals (gap ++ gap') left := by
  induction gap with
  | nil => exact h'
  | cons c gap ih =>
    refine ⟨?_, ih h.2⟩
    intro literal hliteral
    rw [List.append_eq, List.append_assoc]
    exact h.1 literal hliteral

/-- No literal begins where the first character of none of them stands. -/
theorem silent_of_head (h : ∀ c ∈ gap, ∀ literal ∈ literals, literal.head?.any (· != c) = true)
    (left : List Char) : Silent literals gap left := by
  induction gap with
  | nil => trivial
  | cons c gap ih =>
    refine ⟨?_, ih fun d hd => h d (List.mem_cons_of_mem c hd)⟩
    intro literal hliteral hbegins
    have hhead := h c List.mem_cons_self literal hliteral
    cases literal with
    | nil => simp at hhead
    | cons d rest =>
      obtain ⟨rfl, -⟩ := List.cons_prefix_cons.mp hbegins
      simp at hhead

theorem silent_of_not_mem {literal : List Char} {c : Char} (hhead : literal.head? = some c)
    (h : c ∉ gap) (left : List Char) : Silent [literal] gap left := by
  apply silent_of_head
  rintro d hd _ hliteral
  obtain rfl := List.mem_singleton.mp hliteral
  rw [hhead, Option.any_some, bne_iff_ne]
  rintro rfl
  exact h hd

variable {text : Array Char}

theorem occursAt_place (literal : List Char) {ahead : List Char} (h : ahead <:+ text.toList) :
    occursAt text literal (place text ahead) text.size = literal.isPrefixOf ahead := by
  induction literal generalizing ahead with
  | nil => simp [occursAt, place_le]
  | cons c rest ih =>
    cases ahead with
    | nil => simp [occursAt, place_nil]
    | cons d ahead =>
      have hlt := place_lt h (List.cons_ne_nil d ahead)
      rw [occursAt, getElem?_place h, place_cons h, ih (suffix_of_cons h),
        List.isPrefixOf_cons_cons]
      simp [hlt, Bool.beq_comm]

/-- A search for literals passes over a piece in which none begins. -/
theorem firstIn?_of_silent (h : Silent literals gap left) (hsuffix : gap ++ left <:+ text.toList) :
    firstIn? (fun offset => (literals.find? (occursAt text · offset text.size)).isSome)
        (place text (gap ++ left)) text.size =
      firstIn? (fun offset => (literals.find? (occursAt text · offset text.size)).isSome)
        (place text left) text.size := by
  induction gap with
  | nil => rfl
  | cons c gap ih =>
    rw [List.cons_append] at hsuffix ⊢
    have hlater := suffix_of_cons hsuffix
    have hnone : literals.find? (occursAt text · (place text (c :: (gap ++ left))) text.size) =
        none := by
      rw [List.find?_eq_none]
      intro literal hliteral
      rw [occursAt_place literal hsuffix, List.isPrefixOf_iff_prefix]
      exact h.1 literal hliteral
    rw [firstIn?_of_lt (place_lt hsuffix (List.cons_ne_nil _ _)),
      if_neg (by simp [hnone]), place_cons hsuffix]
    exact ih h.2 hlater

theorem Probe.hits_firstOf {hit : List Char} (h : Silent literals gap (hit ++ left))
    (hhit : literals.find? (·.isPrefixOf (hit ++ left)) = some hit) (hne : hit ≠ [])
    (hsuffix : gap ++ (hit ++ left) <:+ text.toList) :
    Probe.firstOf literals text ⟨place text (gap ++ (hit ++ left)), text.size⟩ =
      .hit ⟨place text (hit ++ left), place text left⟩ := by
  have hlater := suffix_of_append hsuffix
  have hlt := place_lt hlater (by simp [hne])
  have hfind :
      literals.find? (occursAt text · (place text (hit ++ left)) text.size) = some hit := by
    simp only [occursAt_place _ hlater]
    exact hhit
  rw [Probe.firstOf]
  dsimp only
  rw [firstIn?_of_silent h hsuffix, firstIn?_of_lt hlt, hfind, Option.isSome_some, if_pos rfl]
  dsimp only
  rw [hfind, Option.getD_some, place_append hlater]

theorem Probe.misses_firstOf {ahead : List Char} (h : Silent literals ahead [])
    (hsuffix : ahead <:+ text.toList) :
    Probe.firstOf literals text ⟨place text ahead, text.size⟩ = .miss text.size := by
  have hsuffix : ahead ++ [] <:+ text.toList := by rwa [List.append_nil]
  have hfirst := firstIn?_of_silent h hsuffix
  rw [List.append_nil, place_nil, firstIn?_of_le (Nat.le_refl _)] at hfirst
  rw [Probe.firstOf]
  dsimp only
  rw [hfirst]

theorem Probe.hits_literal {literal : List Char} (h : Silent [literal] gap (literal ++ left))
    (hne : literal ≠ []) : (Probe.literal literal).Hits gap literal left := by
  intro text hsuffix
  rw [Probe.scan_literal]
  exact Probe.hits_firstOf h (by simp) hne hsuffix

/-- A literal is hit behind a piece in which its first character does not stand. -/
theorem Probe.hits_of_not_mem (literal : List Char) {c : Char} (hhead : literal.head? = some c)
    (h : c ∉ gap) (left : List Char) : (Probe.literal literal).Hits gap literal left := by
  apply Probe.hits_literal (silent_of_not_mem hhead h _)
  rintro rfl
  simp at hhead

theorem Probe.hits_oneOf {hit : List Char} (h : Silent literals gap (hit ++ left))
    (hhit : literals.find? (·.isPrefixOf (hit ++ left)) = some hit) (hne : hit ≠ []) :
    (Probe.oneOf literals).Hits gap hit left :=
  fun _ hsuffix => Probe.hits_firstOf h hhit hne hsuffix

theorem Probe.misses_literal {literal ahead : List Char} (h : Silent [literal] ahead []) :
    (Probe.literal literal).Misses ahead [] := by
  intro text hsuffix
  rw [Probe.scan_literal]
  exact Probe.misses_firstOf h hsuffix

theorem Probe.misses_oneOf {ahead : List Char} (h : Silent literals ahead []) :
    (Probe.oneOf literals).Misses ahead [] :=
  fun _ hsuffix => Probe.misses_firstOf h hsuffix

end Literals

end Scan
end Autocomplete
