import BayesLex.Proofs.Regex.Anchored

/-!
# What a word and the character behind it capture

In an anchored expression a group captures a word, as long as possible, and a
second group the character behind it.  If that character cannot stand in the
word, then to give back characters of the word leads nowhere: in the place of
each of them the second group would have to match it.  So the match is told by
the longest run of characters alone.
-/

namespace BayesLex

namespace Regex

/-- A word in a first group, and the character behind it in a second one. -/
def wordThen (first others : CharSet) (last : Char) : Regex :=
  seq (group 1 (seq (one first) (iterate (one others) ⟨0, none, true⟩)))
    (group 2 (one (.single last)))

/-- The run over a word of a length and one character, with its two groups. -/
def runOverCall (length : Nat) : Run where
  taken := length + 1
  captures := [(2, ⟨length, length + 1⟩), (1, ⟨0, length⟩)]

/-- Inside of a word the two groups cannot be matched to their end. -/
theorem stopsBefore_last {others : CharSet} {last : Char}
    (outside : others.contains last = false) (base start : Nat)
    (captures : Captures) (best : Option Run) :
    Thread.StopsBefore others
      [.close 1 start, .enter base (.capture 2 (.read (.single last)))]
      captures 3 best := by
  intro place character rest after member
  have different : character ≠ last := by
    rintro rfl
    simp [outside] at member
  refine ⟨none, fun _ => rfl,
    Thread.Finds.go rfl (Thread.Finds.go rfl (Thread.Finds.read_fail ?_))⟩
  simp [after, different]

/-- At a place behind a word the groups are matched if the character follows. -/
theorem finds_last (base : Nat) (last : Char) {place : Place} {text : Text}
    (after : place.after = text.head?) :
    (Thread.mk
      [.close 1 0, .enter base (.capture 2 (.read (.single last)))] []).Finds
      place text 3 2
      (if text.head? = some last then some (runOverCall place.taken)
        else none) := by
  refine Thread.Finds.go rfl (Thread.Finds.go rfl
    (Thread.Finds.character after ?_ ?_))
  · rintro rest rfl
    rw [List.head?_cons, if_pos rfl]
    have done := Thread.Finds.accept (place.pass rest) rest
      (runOverCall place.taken).captures
    exact (Thread.Finds.go rfl done).mono (Nat.le_refl 2) (Nat.zero_le 2)
  · intro different
    rw [if_neg different]

/-- The longest word, if the character that is captured stands behind it. -/
theorem find?_wordThen {first others : CharSet} {last : Char}
    (larger : ∀ character, first.contains character = true →
      others.contains character = true)
    (outside : others.contains last = false) (text : Text) :
    (wordThen first others last).anchored.automaton.find? text =
      if text.head?.any first.contains = true ∧
          (text.dropWhile others.contains).head? = some last then
        some (runOverCall (text.takeWhile others.contains).length)
      else
        none := by
  have found : (Thread.mk [.enter 0 (.read first),
      .enter 1 (.star true (.read others)), .close 1 0,
      .enter 3 (.capture 2 (.read (.single last)))] []).Finds
      (Place.start text) text 1 7
      (if text.head?.any first.contains = true ∧
          (text.dropWhile others.contains).head? = some last then
        some (runOverCall (text.takeWhile others.contains).length)
      else
        none) := by
    apply Thread.Finds.read rfl
    · rintro character rest rfl member
      let word := rest.takeWhile others.contains
      let place := (Place.start (character :: rest)).pass rest
      have after : (place.behind word (rest.dropWhile others.contains)).after =
          (rest.dropWhile others.contains).head? := by
        apply Place.after_behind
        rw [List.takeWhile_append_dropWhile]
        rfl
      have behind := finds_last 3 last after
      have taken : (place.behind word
          (rest.dropWhile others.contains)).taken = word.length + 1 := by
        rw [Place.taken_behind]
        exact Nat.add_comm 1 word.length
      rw [taken] at behind
      have inWord := larger character member
      simp only [List.head?_cons, Option.any_some, member, true_and,
        List.takeWhile_cons_of_pos inWord, List.dropWhile_cons_of_pos inWord,
        List.length_cons]
      -- Where the repetition could give a character back, both groups fail.
      exact ((Thread.repeats_star 1 others).finds
        (stopsBefore_last outside 3 0 [] _) place rest rfl behind).mono
        (by omega) (Nat.le_refl 7)
    · intro missing
      rw [missing, if_neg fun both => Bool.false_ne_true both.1]
  exact find?_anchored (Thread.Finds.go rfl (Thread.Finds.go rfl
    (Thread.Finds.go rfl found))) (by omega) (by omega)

end Regex

end BayesLex
