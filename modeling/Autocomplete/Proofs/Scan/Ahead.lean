import Autocomplete.Proofs.Scan.Aligned
import Autocomplete.Proofs.Scan.CheckedSearch

/-!
# The text past a window

A scan may look back before its window, but never ahead of it. Two texts that begin with the same
characters are aligned without a shift, so that even the probes that move back answer alike in them,
and with the probes whole searches do.
-/

namespace Autocomplete
namespace Scan

theorem Aligned.of_take {chars chars' : List Char} {n : Nat} (hle : n ≤ chars'.length)
    (hsame : chars.take n = chars'.take n) : Aligned chars.toArray chars'.toArray 0 n := by
  refine ⟨by simpa using hle, fun i hlt => ?_⟩
  have hread := congrArg (·[i]?) hsame
  simpa [List.getElem?_take_of_lt hlt] using hread

theorem Probe.scanIn_of_within (p : Probe) {text : String} {w : Window}
    (h : w.Within text.length) : p.scanIn text w = .ok (p.scan text.toList.toArray w) := by
  simp only [scanIn, Window.fault?_of_within h]

/-- In two texts that agree up to the end of a window, scanning the window gives the same result,
with every probe, with every list of steps and with every rule: none of them depends on the text
after the window, whether it moves back, moves the end of a hit or rescans what it captures. -/
theorem scans_never_look_ahead {text text' : String} {start stop : Nat} (hle : start ≤ stop)
    (hstop : stop ≤ text.length) (hstop' : stop ≤ text'.length)
    (hsame : text.toList.take stop = text'.toList.take stop) :
    (∀ p : Probe, ∃ outcome, p.scanIn text ⟨start, stop⟩ = .ok outcome ∧
      p.scanIn text' ⟨start, stop⟩ = .ok outcome) ∧
    (∀ (steps : List Step) (before : List Capture),
      follow steps text.toList.toArray before ⟨start, stop⟩ =
        follow steps text'.toList.toArray before ⟨start, stop⟩) ∧
    (∀ r : Rule, ∃ found, r.findIn text ⟨start, stop⟩ = .ok found ∧
      r.findIn text' ⟨start, stop⟩ = .ok found) := by
  have hlength : stop ≤ text'.toList.length := by rwa [String.length_toList]
  have haligned := Aligned.of_take hlength hsame
  have hwithin : Window.Within ⟨start, stop⟩ text.length := ⟨hle, hstop⟩
  have hwithin' : Window.Within ⟨start, stop⟩ text'.length := ⟨hle, hstop'⟩
  refine ⟨?_, ?_, ?_⟩
  · intro p
    have hscan : p.scan text.toList.toArray ⟨start, stop⟩ =
        p.scan text'.toList.toArray ⟨start, stop⟩ := by
      simpa using haligned.scan_eq p (w := ⟨start, stop⟩) (Or.inl rfl) hle (Nat.le_refl _)
    exact ⟨_, p.scanIn_of_within hwithin, by rw [p.scanIn_of_within hwithin', hscan]⟩
  · intro steps before
    exact haligned.follow_eq steps before (w := ⟨start, stop⟩) (fun _ _ => Or.inl rfl) hle
      (Nat.le_refl _)
  · intro r
    have hsearch : search r.steps text.toList.toArray ⟨start, stop⟩ =
        search r.steps text'.toList.toArray ⟨start, stop⟩ := by
      simpa using haligned.search_eq r.steps (w := ⟨start, stop⟩) (fun _ _ => Or.inl rfl)
        (Nat.le_refl _)
    exact ⟨_, r.findIn_of_within hwithin, by rw [r.findIn_of_within hwithin', hsearch]⟩

/-- The words from the start of the line to at most seven characters after its first word. -/
def lineWords : Rule where
  steps := [.lineStart, (Step.shifted .word 7).saving.rescanning [Step.word.repeating.saving]]
  faultless := rfl

theorem scans_never_look_ahead_in_open_group :
    (4 ≤ 6 ∧ 6 ≤ "x = f(ab)".length ∧ 6 ≤ "x = f(z".length ∧
      "x = f(ab)".toList.take 6 = "x = f(z".toList.take 6) ∧
    (Probe.bracket '(' ')').scanIn "x = f(ab)" ⟨5, 9⟩ = .ok (.hit ⟨5, 9⟩) ∧
    (Probe.bracket '(' ')').scanIn "x = f(z" ⟨5, 6⟩ = .ok (.miss 6) ∧
    follow lineWords.steps "x = f(z".toList.toArray [] ⟨4, 6⟩ =
      ([[.inner [[.text "x"], [.text "f"]]]], 6) ∧
    lineWords.findIn "x = f(z" ⟨4, 6⟩ = .ok [[.inner [[.text "x"], [.text "f"]]]] := by
  have hstop : 6 ≤ "x = f(ab)".length := by decide
  have hstop' : 6 ≤ "x = f(z".length := by decide
  have hsame : "x = f(ab)".toList.take 6 = "x = f(z".toList.take 6 := by decide
  have hgroup : 5 ≤ 6 := by decide
  have hline : 4 ≤ 6 := by decide
  obtain ⟨hprobe, -, -⟩ := scans_never_look_ahead hgroup hstop hstop' hsame
  obtain ⟨-, hfollow, hrule⟩ := scans_never_look_ahead hline hstop hstop' hsame
  refine ⟨⟨hline, hstop, hstop', hsame⟩, rfl, ?_, ?_, ?_⟩
  · obtain ⟨outcome, hscan, hscan'⟩ := hprobe (.bracket '(' ')')
    rw [hscan', ← hscan]
    rfl
  · rw [← hfollow]
    rfl
  · obtain ⟨found, hfind, hfind'⟩ := hrule lineWords
    rw [hfind', ← hfind]
    rfl

end Scan
end Autocomplete
