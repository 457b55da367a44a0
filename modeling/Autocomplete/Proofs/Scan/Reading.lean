import Autocomplete.Proofs.Scan.Looping
import Autocomplete.Proofs.Scan.Pieces
import Autocomplete.Proofs.Scan.Slice

/-!
# Reading a text piece by piece

Where a list of steps is followed in a text, it reads some of the characters that are left there and
leaves the others, and a search for the steps finds its matches in what is left. Both judgements
speak of the pieces of the text alone, with one rule for each outcome of a step, so that a text of
known pieces is read by applying the rules in the order of the steps.
-/

namespace Autocomplete
namespace Scan

open Text

/-- Where `ahead` is left of a text, the steps find `found` and go on where `left` is. -/
structure Reads (steps : List Step) (ahead : List Char) (found : List Match) (left : List Char) :
    Prop where
  left_suffix : left <:+ ahead
  follow_eq : ∀ text : Array Char, ahead <:+ text.toList →
    follow steps text [] ⟨place text ahead, text.size⟩ = (found, place text left)

/-- Where `ahead` is left of a text, a search for the steps finds `found` in it. -/
def Finds (steps : List Step) (ahead : List Char) (found : List Match) : Prop :=
  ∀ text : Array Char, ahead <:+ text.toList →
    search steps text ⟨place text ahead, text.size⟩ = found

def Step.taken (s : Step) (hit : List Char) : List Capture :=
  if s.captured then [record s hit.toArray] else []

section Steps

variable {s : Step} {rest : List Step} {gap hit left ahead left' : List Char}
  {found found' : List Match}

theorem Step.kept_place {text : Array Char} (h : hit ++ left <:+ text.toList) :
    s.kept (record s) text ⟨place text (hit ++ left), place text left⟩ = s.taken hit := by
  rw [Step.kept, Step.taken, slice_place h]

theorem attempt_of_hits (hnested : s.nested = false) (hhit : s.probe.Hits gap hit left)
    (h : Reads rest left found left') {text : Array Char}
    (hsuffix : gap ++ (hit ++ left) <:+ text.toList) :
    s.attempt (record s) (follow rest text) text [] text.size
        (place text (gap ++ (hit ++ left))) =
      (found.map (s.taken hit ++ ·), place text left') := by
  have hlater := suffix_of_append (suffix_of_append hsuffix)
  have hwindow : s.windowAfter ⟨place text (hit ++ left), place text left⟩ text.size =
      ⟨place text left, text.size⟩ := by
    rw [Step.windowAfter, hnested, if_neg Bool.false_ne_true]
  rw [Step.attempt_of_hit _ _ (hhit text hsuffix), hwindow, List.nil_append,
    Step.kept_place (suffix_of_append hsuffix), follow_before, h.follow_eq text hlater,
    Nat.max_eq_left (place_le_place h.left_suffix)]

theorem Reads.nil (ahead : List Char) : Reads [] ahead [[]] ahead :=
  ⟨List.suffix_refl _, fun _ _ => rfl⟩

theorem Reads.step (hlooping : s.looping = false) (hnested : s.nested = false)
    (hne : hit ++ left ≠ []) (hhit : s.probe.Hits gap hit left) (h : Reads rest left found left') :
    Reads (s :: rest) (gap ++ (hit ++ left)) (found.map (s.taken hit ++ ·)) left' := by
  refine ⟨?_, fun text hsuffix => ?_⟩
  · exact (h.left_suffix.trans (List.suffix_append hit left)).trans (List.suffix_append gap _)
  · have hlt := place_lt hsuffix (by simp_all)
    rw [follow_cons, Step.attempts_of_not_looping hlooping hlt]
    exact attempt_of_hits hnested hhit h hsuffix

theorem Reads.plain {p : Probe} (hne : hit ++ left ≠ []) (hhit : p.Hits gap hit left)
    (h : Reads rest left found left') :
    Reads (Step.plain p :: rest) (gap ++ (hit ++ left)) found left' := by
  have hreads := Reads.step (s := Step.plain p) rfl rfl hne hhit h
  have htaken : (Step.plain p).taken hit = [] := rfl
  rw [htaken] at hreads
  simpa using hreads

theorem Reads.saving {p : Probe} (hne : hit ++ left ≠ []) (hhit : p.Hits gap hit left)
    (h : Reads rest left found left') :
    Reads ((Step.plain p).saving :: rest) (gap ++ (hit ++ left))
      (found.map (.text (String.ofList hit) :: ·)) left' :=
  Reads.step (s := (Step.plain p).saving) rfl rfl hne hhit h

theorem Reads.spaces {blank : List Char} (hblank : blank.all isScanSpace = true)
    (hleft : left.head?.any isScanSpace = false) (hne : left ≠ [])
    (h : Reads rest left found left') : Reads (Step.spaces :: rest) (blank ++ left) found left' :=
  Reads.plain (by simp [hne]) (Probe.hits_spaces hblank hleft) h

theorem Reads.word (i : Identifier) (hleft : left.head?.any isNameChar = false)
    (h : Reads rest left found left') :
    Reads (Step.word.saving :: rest) (i.chars ++ left) (found.map (.text i.text :: ·)) left' :=
  Reads.saving (i.append_ne_nil left) (Probe.hits_word i hleft) h

theorem Reads.rescanning {p : Probe} {steps : List Step} (hne : hit ++ left ≠ [])
    (hhit : p.Hits gap hit left) (hfound : Finds steps hit found')
    (h : Reads rest left found left') :
    Reads ((Step.plain p).saving.rescanning steps :: rest) (gap ++ (hit ++ left))
      (found.map (.inner found' :: ·)) left' := by
  have hinner : record ((Step.plain p).saving.rescanning steps) hit.toArray = .inner found' := by
    have hsearch := hfound hit.toArray (List.suffix_refl _)
    rw [place_toArray] at hsearch
    rw [record_rescanning, searchAll, hsearch]
  have htaken : ((Step.plain p).saving.rescanning steps).taken hit = [.inner found'] := by
    rw [Step.taken, hinner]
    rfl
  have hreads := Reads.step (s := (Step.plain p).saving.rescanning steps) rfl rfl hne hhit h
  rw [htaken] at hreads
  exact hreads

theorem Reads.miss (hlooping : s.looping = false) (hsuffix : left <:+ ahead) (hne : ahead ≠ [])
    (hmiss : s.probe.Misses ahead left) : Reads (s :: rest) ahead [] left := by
  refine ⟨hsuffix, fun text htext => ?_⟩
  have hlt := place_lt htext hne
  rw [follow_cons, Step.attempts_of_not_looping hlooping hlt,
    Step.attempt_of_miss _ _ (hmiss text htext)]

theorem Reads.repeating (h : Finds (s :: rest) ahead found) :
    Reads (s.repeating :: rest) ahead found [] := by
  refine ⟨List.nil_suffix, fun text htext => ?_⟩
  have hsearch := h text htext
  rw [search_cons] at hsearch
  have hle := place_le text ahead
  have hend := follow_snd_le (s.repeating :: rest) text [] (w := ⟨place text ahead, text.size⟩) hle
  rw [follow_repeating] at hend ⊢
  have hstop := le_sweep_snd (s.attempt (record s) (follow rest text) text [] text.size)
    (place text ahead) text.size
  dsimp only at hsearch hend ⊢
  rw [Prod.ext_iff, place_nil]
  exact ⟨hsearch, by omega⟩

/-- The last character of a literal is read once more by the step after the one that moves back. -/
theorem Reads.reread {literal : String} {c : Char}
    (hhit : (Probe.literal literal.toList).Hits gap (hit ++ [c]) left) (hne : left ≠ [])
    (h : Reads rest (c :: left) found left') (hleft : left' <:+ left) :
    Reads (Step.literal literal :: Step.backward 1 :: rest) (gap ++ (hit ++ c :: left)) found
      left' := by
  have hpiece : hit ++ c :: left = (hit ++ [c]) ++ left := by simp
  refine ⟨?_, fun text hsuffix => ?_⟩
  · rw [hpiece]
    exact (hleft.trans (List.suffix_append _ left)).trans (List.suffix_append gap _)
  · have hlater : c :: left <:+ text.toList := suffix_of_append (suffix_of_append hsuffix)
    have hlt := place_lt hsuffix (by simp)
    have hback : (Step.backward 1).probe.scan text ⟨place text left, text.size⟩ =
        .anchor (place text (c :: left)) := by
      rw [← place_cons hlater]
      rfl
    have hscan : (Step.literal literal).probe.scan text
        ⟨place text (gap ++ (hit ++ c :: left)), text.size⟩ =
        .hit ⟨place text (hit ++ c :: left), place text left⟩ := by
      rw [hpiece] at hsuffix ⊢
      exact hhit text hsuffix
    have hanchor : follow (Step.backward 1 :: rest) text [] ⟨place text left, text.size⟩ =
        (found, place text left') := by
      have hwindow : (Step.backward 1).windowAt (place text (c :: left)) text.size =
          ⟨place text (c :: left), text.size⟩ := rfl
      rw [follow_cons, Step.attempts_of_not_looping rfl (place_lt (suffix_of_cons hlater) hne),
        Step.attempt_of_anchor _ _ hback, hwindow, h.follow_eq text hlater,
        Nat.max_eq_left (place_le_place h.left_suffix)]
    have hwindow : (Step.literal literal).windowAfter
        ⟨place text (hit ++ c :: left), place text left⟩ text.size =
        ⟨place text left, text.size⟩ := rfl
    have hkept : (Step.literal literal).kept (record (Step.literal literal)) text
        ⟨place text (hit ++ c :: left), place text left⟩ = [] := rfl
    rw [follow_cons, Step.attempts_of_not_looping rfl hlt, Step.attempt_of_hit _ _ hscan, hwindow,
      hkept, List.append_nil, hanchor, Nat.max_eq_left (place_le_place hleft)]

/-- The steps after a step that is entered see its hit as a text of its own. -/
theorem Reads.entering {p : Probe} (hhit : p.Hits gap hit left) (hne : hit ++ left ≠ [])
    (hback : ∀ t ∈ s :: rest, t.probe.movesBack = false) (h : Finds (s :: rest) hit found) :
    Reads ((Step.plain p).entering :: s.repeating :: rest) (gap ++ (hit ++ left)) found left := by
  refine ⟨(List.suffix_append hit left).trans (List.suffix_append gap _), fun text hsuffix => ?_⟩
  have hpiece := suffix_of_append hsuffix
  have hle := place_append hpiece
  have hlt := place_lt hsuffix (by simp_all)
  have hrepeating : ∀ t ∈ s.repeating :: rest, t.probe.movesBack = false := by
    intro t ht
    rcases List.mem_cons.mp ht with rfl | ht
    · exact hback s List.mem_cons_self
    · exact hback t (List.mem_cons_of_mem s ht)
  have hwithin : (⟨place text (hit ++ left), place text left⟩ : Window).Within text.size :=
    ⟨by dsimp only; omega, place_le text left⟩
  have hwindow : (Step.plain p).entering.windowAfter
      ⟨place text (hit ++ left), place text left⟩ text.size =
      ⟨place text (hit ++ left), place text left⟩ := rfl
  have hkept : (Step.plain p).entering.kept (record (Step.plain p).entering) text
      ⟨place text (hit ++ left), place text left⟩ = [] := rfl
  -- the later steps cannot leave what is entered, so they run as on a text of its own
  have hinside := (Reads.repeating h).follow_eq hit.toArray (List.suffix_refl _)
  have hsize : Window.size ⟨place text (hit ++ left), place text left⟩ = hit.toArray.size := by
    simp only [Window.size, List.size_toArray]
    omega
  have hfollow := follow_eq_follow_slice [] hrepeating hwithin
  rw [slice_place hpiece, hsize] at hfollow
  rw [place_toArray, place_nil] at hinside
  rw [hinside, List.size_toArray] at hfollow
  rw [follow_cons, Step.attempts_of_not_looping rfl hlt,
    Step.attempt_of_hit (s := (Step.plain p).entering) _ _ (hhit text hsuffix), hwindow, hkept,
    List.append_nil, hfollow]
  dsimp only
  rw [Nat.add_comm, hle, Nat.max_self]

theorem Finds.nil (steps : List Step) : Finds steps [] [] := by
  intro text _
  rw [search, place_nil, sweep_of_le _ (Nat.le_refl _)]

/-- A search goes on where the steps have read up to. -/
theorem Finds.step (hnested : s.nested = false) (hhit : s.probe.Hits gap hit left)
    (hne : hit ≠ []) (h : Reads rest left found left') (hlater : Finds (s :: rest) left' found') :
    Finds (s :: rest) (gap ++ (hit ++ left)) (found.map (s.taken hit ++ ·) ++ found') := by
  intro text hsuffix
  have hleft := h.left_suffix.trans (List.suffix_append hit left)
  have hlength := h.left_suffix.length_le
  have hpos := List.length_pos_iff.mpr hne
  have htext := length_le_of_suffix hsuffix
  have hlt := place_lt hsuffix (by simp_all)
  have hbeyond : place text (gap ++ (hit ++ left)) + 1 ≤ place text left' := by
    rw [List.length_append, List.length_append] at htext
    rw [place, place, List.length_append, List.length_append]
    omega
  have hrest := hlater text (hleft.trans (suffix_of_append hsuffix))
  rw [search_cons] at hrest ⊢
  dsimp only at hrest ⊢
  rw [sweep_of_lt _ hlt, attempt_of_hits hnested hhit h hsuffix, Nat.max_eq_left hbeyond, hrest]

theorem Finds.plain {p : Probe} (hhit : p.Hits gap hit left) (hne : hit ≠ [])
    (h : Reads rest left found left') (hlater : Finds (Step.plain p :: rest) left' found') :
    Finds (Step.plain p :: rest) (gap ++ (hit ++ left)) (found ++ found') := by
  have hfinds := Finds.step (s := Step.plain p) rfl hhit hne h hlater
  have htaken : (Step.plain p).taken hit = [] := rfl
  rw [htaken] at hfinds
  simpa using hfinds

theorem Finds.saving {p : Probe} (hhit : p.Hits gap hit left) (hne : hit ≠ [])
    (h : Reads rest left found left')
    (hlater : Finds ((Step.plain p).saving :: rest) left' found') :
    Finds ((Step.plain p).saving :: rest) (gap ++ (hit ++ left))
      (found.map (.text (String.ofList hit) :: ·) ++ found') :=
  Finds.step (s := (Step.plain p).saving) rfl hhit hne h hlater

theorem Finds.of_reads (hlooping : s.looping = false) (hlt : left.length < ahead.length)
    (h : Reads (s :: rest) ahead found left) (hlater : Finds (s :: rest) left found') :
    Finds (s :: rest) ahead (found ++ found') := by
  intro text hsuffix
  have htext := length_le_of_suffix hsuffix
  have hplace : place text ahead < text.size := by
    rw [place]
    omega
  have hbeyond : place text ahead + 1 ≤ place text left := by
    rw [place, place]
    omega
  have hfollow := h.follow_eq text hsuffix
  have hrest := hlater text (h.left_suffix.trans hsuffix)
  rw [follow_cons, Step.attempts_of_not_looping hlooping hplace] at hfollow
  rw [search_cons] at hrest ⊢
  dsimp only at hrest ⊢
  rw [sweep_of_lt _ hplace, hfollow, Nat.max_eq_left hbeyond, hrest]

/-- Where the first step misses on the spot, the search goes on with the next character. -/
theorem Finds.skip {c : Char} (hmiss : s.probe.Misses (c :: left) (c :: left))
    (h : Finds (s :: rest) left found) : Finds (s :: rest) (c :: left) found := by
  intro text hsuffix
  have hlt := place_lt hsuffix (List.cons_ne_nil c left)
  have hrest := h text (suffix_of_cons hsuffix)
  rw [search_cons] at hrest ⊢
  dsimp only at hrest ⊢
  rw [sweep_of_lt _ hlt, Step.attempt_of_miss _ _ (hmiss text hsuffix), Nat.max_eq_right (by omega),
    place_cons hsuffix]
  exact hrest

theorem Finds.end (hmiss : s.probe.Misses ahead []) : Finds (s :: rest) ahead [] := by
  intro text hsuffix
  by_cases hne : ahead = []
  · subst hne
    exact Finds.nil _ text hsuffix
  · have hlt := place_lt hsuffix hne
    rw [search_cons]
    dsimp only
    rw [sweep_of_lt _ hlt, Step.attempt_of_miss _ _ (hmiss text hsuffix), place_nil,
      sweep_of_le _ (Nat.le_max_left _ _)]
    rfl

theorem Finds.end_of_not_mem {literal : List Char} {c : Char} (hprobe : s.probe = .literal literal)
    (hhead : literal.head? = some c) (h : c ∉ ahead) : Finds (s :: rest) ahead [] := by
  apply Finds.end
  rw [hprobe]
  exact Probe.misses_literal (silent_of_not_mem hhead h [])

theorem finds_repeating_iff : Finds (s.repeating :: rest) ahead found ↔
    Finds (s :: rest) ahead found := by
  simp only [Finds, search_repeating]

end Steps

def Match.ofPair (pair : String × String) : Match := [.text pair.1, .text pair.2]

theorem Match.filterMap_pair?_map_ofPair (pairs : List (String × String)) :
    (pairs.map ofPair).filterMap pair? = pairs := by
  have hpair : pair? ∘ ofPair = some := rfl
  rw [List.filterMap_map, hpair, List.filterMap_some]

theorem Rule.findAll_of_finds {r : Rule} {ahead : List Char} {found : List Match}
    (h : Finds r.steps ahead found) : r.findAll (String.ofList ahead) = found := by
  have hsearch := h ahead.toArray (List.suffix_refl _)
  rw [place_toArray] at hsearch
  rw [Rule.findAll, String.toList_ofList]
  exact hsearch

end Scan
end Autocomplete
