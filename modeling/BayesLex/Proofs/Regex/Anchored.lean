import BayesLex.Proofs.Regex.Patterns
import BayesLex.Proofs.Text.Stretches

/-!
# What anchored expressions find

An expression behind the assertion that the text starts either matches a
beginning of the text or finds nothing.  For the shapes that make up a lexical
grammar the match is told here without an automaton: by the words with which
the text starts, and by the longest run of characters of a set.
-/

namespace BayesLex

/-- An expression behind the assertion that the text starts. -/
def Regex.anchored (body : Regex) : Regex :=
  .seq (.assertion .textStart) body

namespace Regex

/-- The more parts an expression has, the more steps its automaton takes. -/
theorem size_le_effort (body : Regex) :
    9 * (body.plan.size + 3) ≤ body.anchored.automaton.effort := by
  have size : body.anchored.plan.size = body.plan.size + 2 := by
    change 1 + body.plan.size + 1 = body.plan.size + 2
    omega
  change _ ≤ 9 * (body.anchored.plan.width + 1) * (body.anchored.plan.size + 1)
  rw [size, Nat.mul_assoc]
  exact Nat.mul_le_mul_left 9
    (Nat.le_mul_of_pos_left _ (Nat.succ_pos body.anchored.plan.width))

/-- An anchored expression finds the preferred run from the start. -/
theorem find?_anchored {body : Regex} {text : Text} {now later : Nat}
    {best : Option Run}
    (finds : (Thread.mk [.enter 0 body.plan] []).Finds (Place.start text) text
      now later best)
    (nowLe : now ≤ 9 * body.plan.size + 20)
    (laterLe : later ≤ 9 * body.plan.size + 20) :
    body.anchored.automaton.find? text = best := by
  have start : (Thread.start body.anchored.plan).Finds (Place.start text) text
      (now + 2) later best :=
    Thread.Finds.go rfl (Thread.Finds.go rfl finds)
  have effort := size_le_effort body
  rcases start with ⟨steps, ahead, runs, stepsLe, aheadLe, rfl, yields⟩
  exact find?_eq_head? rfl yields (by omega) (by omega)

/-- The run that ends behind a beginning of a text. -/
def runOver (taken : Text) : Run where
  taken := taken.length
  captures := []

theorem accept_behind (word rest : Text) :
    (Thread.mk [] []).Finds ((Place.start (word ++ rest)).behind word rest)
      rest 1 0 (some (runOver word)) := by
  have done := Thread.Finds.accept
    ((Place.start (word ++ rest)).behind word rest) rest []
  rw [Place.taken_behind, Place.start, Nat.zero_add] at done
  exact done

theorem findSome?_filter_runOver (words : List Text)
    (begins accepted : Text → Bool) :
    ((words.filter begins).findSome? fun word =>
        if accepted word then some (runOver word) else none) =
      (words.find? fun word => begins word && accepted word).map runOver := by
  induction words with
  | nil => rfl
  | cons word words hypothesis =>
      cases starts : begins word <;> cases goesOn : accepted word <;>
        simp [starts, goesOn, hypothesis]

/-- The first word of an expression behind which the other tasks can be done. -/
theorem Spells.finds {regex : Regex} {words : List Text}
    (spells : regex.Spells words) {text : Text} {tasks : List Task}
    {accepted : Text → Bool}
    (follow : ∀ word ∈ words, ∀ rest, text = word ++ rest →
      (Thread.mk tasks []).Finds ((Place.start text).behind word rest) rest 2 0
        (if accepted word then some (runOver word) else none)) :
    (Thread.mk (.enter 0 regex.plan :: tasks) []).Finds (Place.start text)
      text (3 * words.length) (4 * words.length)
      ((words.find? fun word =>
        word.isPrefixOf text && accepted word).map runOver) := by
  rcases spells (Place.start text) text 0 tasks [] 2
    (fun word => if accepted word then some (runOver word) else none) rfl
    (fun word member rest split =>
      (follow word member rest split).mono (Nat.le_refl 2) (Nat.zero_le 2))
    with ⟨now, nowLt, found⟩
  rw [findSome?_filter_runOver] at found
  exact found.mono (Nat.le_of_lt nowLt) (Nat.le_refl _)

theorem length_le_size_foldl (others : List Text) (regex : Regex) :
    others.length + regex.plan.size ≤
      (others.foldl (fun regex word => regex.alt (literal word))
        regex).plan.size := by
  induction others generalizing regex with
  | nil => exact Nat.le_of_eq (Nat.zero_add _)
  | cons word others hypothesis =>
      have larger : (regex.alt (literal word)).plan.size =
          regex.plan.size + (literal word).plan.size + 1 := rfl
      have rest := hypothesis (regex.alt (literal word))
      rw [List.length_cons, List.foldl_cons]
      omega

theorem length_le_size_anyOf (words : List Text) :
    words.length ≤ (anyOf words).plan.size + 1 := by
  cases words with
  | nil => exact Nat.zero_le _
  | cons first others =>
      have size := length_le_size_foldl others (literal first)
      exact Nat.succ_le_succ (Nat.le_trans (Nat.le_add_right _ _) size)

/-- A choice between words finds the first one with which the text starts. -/
theorem find?_anyOf {words : List Text} (nonempty : words ≠ [])
    (solid : ∀ word ∈ words, word ≠ []) (text : Text) :
    (anyOf words).anchored.automaton.find? text =
      (words.find? fun word => word.isPrefixOf text).map runOver := by
  have follow : ∀ word ∈ words, ∀ rest, text = word ++ rest →
      (Thread.mk [] []).Finds ((Place.start text).behind word rest) rest 2 0
        (if true then some (runOver word) else none) := by
    rintro word _ rest rfl
    exact (accept_behind word rest).mono (Nat.le_succ 1) (Nat.le_refl 0)
  have size := length_le_size_anyOf words
  have found := (spells_anyOf nonempty solid).finds follow
  simp only [Bool.and_true] at found
  exact find?_anchored found (by omega) (by omega)

/-- Behind a word there is a word boundary where no word character follows. -/
theorem atBoundary_behind {word : Text} (rest : Text) (solid : word ≠ [])
    (inWord : ∀ character ∈ word, isWord character = true) :
    ((Place.start (word ++ rest)).behind word rest).atBoundary =
      !rest.head?.any isWord := by
  have last : word.getLast?.any isWord = true := by
    rw [List.getLast?_eq_some_getLast solid]
    exact inWord _ (List.getLast_mem solid)
  rw [Place.atBoundary, Place.before_behind rfl solid,
    Place.after_behind rfl, last, Bool.true_bne]

/-- A choice between whole words finds the word at the start, if it is one. -/
theorem find?_wholeWord {words : List Text} (nonempty : words ≠ [])
    (solid : ∀ word ∈ words, word ≠ [])
    (inWord : ∀ word ∈ words, ∀ character ∈ word, isWord character = true)
    (text : Text) :
    (seq (anyOf words) (.assertion .wordBoundary)).anchored.automaton.find?
        text =
      if text.takeWhile isWord ∈ words then
        some (runOver (text.takeWhile isWord))
      else
        none := by
  have follow : ∀ word ∈ words, ∀ rest, text = word ++ rest →
      (Thread.mk [.enter (0 + (anyOf words).plan.width)
          (.check .wordBoundary)] []).Finds
        ((Place.start text).behind word rest) rest 2 0
        (if !(text.drop word.length).head?.any isWord then some (runOver word)
          else none) := by
    rintro word member rest rfl
    have boundary := atBoundary_behind rest (solid word member)
      (inWord word member)
    rw [List.drop_left, ← boundary]
    split
    · rename_i holds
      refine Thread.Finds.go ?_ (accept_behind word rest)
      simp [Thread.step, Thread.enter, Thread.doing, Place.satisfies, holds]
    · rename_i fails
      refine (Thread.Finds.fail ?_).mono (Nat.le_succ 1) (Nat.le_refl 0)
      simp [Thread.step, Thread.enter, Place.satisfies, fails]
  have size := length_le_size_anyOf words
  have larger : (seq (anyOf words) (.assertion .wordBoundary)).plan.size =
      (anyOf words).plan.size + 2 := rfl
  have found := (spells_anyOf nonempty solid).finds follow
  rw [Text.find?_stretch text inWord] at found
  rw [find?_anchored (Thread.Finds.go rfl found) (by omega) (by omega)]
  split <;> rfl

theorem find?_one (set : CharSet) (text : Text) :
    (one set).anchored.automaton.find? text =
      if text.head?.any set.contains then some { taken := 1, captures := [] }
      else none := by
  have found : (Thread.mk [.enter 0 (one set).plan] []).Finds
      (Place.start text) text 1 1
      (if text.head?.any set.contains then some { taken := 1, captures := [] }
        else none) := by
    apply Thread.Finds.read rfl
    · rintro character rest rfl member
      rw [List.head?_cons, Option.any_some, if_pos member]
      exact (Thread.Finds.accept _ rest []).mono (Nat.le_refl 1)
        (Nat.zero_le 1)
    · intro missing
      rw [missing]
      rfl
  exact find?_anchored found (by omega) (by omega)

/-- Behind a word, a stretch of characters leads up to where it stops. -/
theorem accept_stretch (sort : Char → Bool) (word rest : Text) :
    (Thread.mk [] []).Finds
      (((Place.start (word ++ rest)).behind word rest).behind
        (rest.takeWhile sort) (rest.dropWhile sort))
      (rest.dropWhile sort) 1 0
      (some (runOver (word ++ rest.takeWhile sort))) := by
  have done := accept_behind (word ++ rest.takeWhile sort)
    (rest.dropWhile sort)
  rw [Place.behind_append, List.append_assoc,
    List.takeWhile_append_dropWhile] at done
  exact done

theorem stopsBefore_nil (set : CharSet) (run : Run) :
    Thread.StopsBefore set [] [] 1 (some run) := by
  intro place character rest _ _
  exact ⟨_, nofun, Thread.Finds.accept place (character :: rest) []⟩

/-- At least one character of a set behind a word, and as many as possible. -/
theorem finds_stretch (base : Nat) (set : CharSet) (word rest : Text) :
    (Thread.mk [.enter base (.loop true (.read set))] []).Finds
      ((Place.start (word ++ rest)).behind word rest) rest 2 (1 + 2 + 0)
      (if rest.head?.any set.contains then
        some (runOver (word ++ rest.takeWhile set.contains))
      else
        none) := by
  apply Thread.finds_loop base (Place.after_behind rfl)
  · intro begins
    rw [if_pos begins]
    exact stopsBefore_nil set _
  · intro begins
    rw [if_pos begins]
    exact accept_stretch set.contains word rest
  · intro missing
    rw [missing]
    rfl

theorem find?_loop (set : CharSet) (text : Text) :
    (iterate (one set) ⟨1, none, true⟩).anchored.automaton.find? text =
      if text.head?.any set.contains then
        some (runOver (text.takeWhile set.contains))
      else
        none :=
  find?_anchored (finds_stretch 0 set [] text) (by omega) (by omega)

/-- A first character, and then as many of a larger set as possible. -/
theorem find?_headed {first others : CharSet}
    (larger : ∀ character, first.contains character = true →
      others.contains character = true) (text : Text) :
    (seq (one first)
        (iterate (one others) ⟨0, none, true⟩)).anchored.automaton.find? text =
      if text.head?.any first.contains then
        some (runOver (text.takeWhile others.contains))
      else
        none := by
  have found : (Thread.mk [.enter 0 (.read first),
      .enter 1 (.star true (.read others))] []).Finds (Place.start text) text 1
      3 (if text.head?.any first.contains then
          some (runOver (text.takeWhile others.contains))
        else
          none) := by
    apply Thread.Finds.read rfl
    · rintro character rest rfl member
      rw [List.head?_cons, Option.any_some, if_pos member,
        List.takeWhile_cons_of_pos (larger character member)]
      exact (Thread.repeats_star 1 others).finds (stopsBefore_nil others _)
        ((Place.start (character :: rest)).pass rest) rest rfl
        (accept_stretch others.contains [character] rest)
    · intro missing
      rw [missing]
      rfl
  exact find?_anchored (Thread.Finds.go rfl found) (by omega) (by omega)

/-- A point behind a stretch of characters, and one more stretch behind it. -/
theorem finds_fraction (base : Nat) (set : CharSet) (point : Char)
    (whole rest : Text) :
    (Thread.mk [.enter base
        (.seq (.read (.single point)) 1 (.loop true (.read set)))] []).Finds
      ((Place.start (whole ++ rest)).behind whole rest) rest 2 3
      (if rest.head? = some point ∧
          (rest.drop 1).head?.any set.contains = true then
        some (runOver (whole ++ point ::
          (rest.drop 1).takeWhile set.contains))
      else
        none) := by
  refine Thread.Finds.go rfl
    (Thread.Finds.character (Place.after_behind rfl) ?_ ?_)
  · rintro fraction rfl
    have found := finds_stretch (base + 1) set (whole ++ [point]) fraction
    rw [Place.behind_append, List.append_assoc, List.append_assoc] at found
    simpa [Place.behind] using found.mono (Nat.le_succ 2) (Nat.le_refl 3)
  · intro different
    rw [if_neg fun both => different both.1]

/-- Two stretches of characters of a set with a point between them. -/
theorem find?_decimal {set : CharSet} {point : Char}
    (outside : set.contains point = false) (text : Text) :
    (seq (iterate (one set) ⟨1, none, true⟩)
        (seq (one (.single point))
          (iterate (one set) ⟨1, none, true⟩))).anchored.automaton.find? text =
      if text.head?.any set.contains = true ∧
          (text.dropWhile set.contains).head? = some point ∧
          ((text.dropWhile set.contains).drop 1).head?.any set.contains =
            true then
        some (runOver (text.takeWhile set.contains ++ point ::
          ((text.dropWhile set.contains).drop 1).takeWhile set.contains))
      else
        none := by
  have fraction := finds_fraction 2 set point (text.takeWhile set.contains)
    (text.dropWhile set.contains)
  rw [List.takeWhile_append_dropWhile] at fraction
  have stops (best : Option Run) : Thread.StopsBefore set [.enter 2
      (.seq (.read (.single point)) 1 (.loop true (.read set)))] [] 2 best := by
    intro place character rest after member
    have different : character ≠ point := by
      rintro rfl
      simp [outside] at member
    refine ⟨none, fun _ => rfl,
      Thread.Finds.go rfl (Thread.Finds.read_fail ?_)⟩
    simp [after, different]
  have after : (Place.start text).after = text.head? := rfl
  split
  · rename_i holds
    rw [if_pos holds.2] at fraction
    exact find?_anchored (Thread.Finds.go rfl (Thread.finds_loop 0 after
      (fun _ => stops _) (fun _ => fraction)
      (fun missing => by simp [missing] at holds))) (by omega) (by omega)
  · rename_i fails
    have nothing (begins : text.head?.any set.contains = true) :=
      if_neg (fun both => fails ⟨begins, both⟩) ▸ fraction
    exact find?_anchored (Thread.Finds.go rfl (Thread.finds_loop 0 after
      (fun _ => stops none) nothing (fun _ => rfl))) (by omega) (by omega)

end Regex

end BayesLex
