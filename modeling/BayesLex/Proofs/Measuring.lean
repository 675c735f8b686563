import BayesLex.Proofs.Finality
import Mathlib.Algebra.GroupWithZero.Nat

/-!
# No byte is measured twice

The words that a scan measures are read ahead of its cursor.  The cursor may
then stop anywhere inside the latest of them, or behind it, but it never moves
back.  So a word that the cursor has left is never needed again, and one in
which it still stands is not measured anew.

The invariant is `WordMemo.Ascends`: each word begins where the words measured
before it have ended, none begins behind the cursor, and the counter is the sum
of their sizes.  The main statement is that the words of a scan share no byte,
so that all of them together are no longer than the source.
-/

namespace BayesLex

/-- A word that has been measured in a source lies within it. -/
theorem Word.MeasuredIn.bounds {word : Word} {source : Text}
    (measured : word.MeasuredIn source) :
    word.start ≤ word.stop ∧ word.stop ≤ Text.size source := by
  rcases measured with ⟨left, right, rfl, rfl⟩
  have parts : Text.size right = Text.size (right.takeWhile isWord) +
      Text.size (right.dropWhile isWord) := by
    rw [← Text.size_append, List.takeWhile_append_dropWhile]
  simp only [Word.measure, Text.size_append]
  omega

namespace WordMemo

/--
The words have been measured one behind the other, latest first, and none of
them begins behind an offset.  The memo answers with the latest of them, and it
counts their bytes.
-/
structure Ascends (memo : WordMemo) (offset : Nat) : Prop where
  apart : memo.words.Pairwise fun later earlier => earlier.stop ≤ later.start
  begun : ∀ word ∈ memo.words, word.start ≤ offset
  latest : memo.latest = memo.words.head?
  measured : memo.measured = (memo.words.map Word.size).sum

theorem ascends_empty (offset : Nat) : Ascends {} offset where
  apart := List.Pairwise.nil
  begun := nofun
  latest := rfl
  measured := rfl

theorem Ascends.mono {memo : WordMemo} {offset offset' : Nat}
    (ascends : memo.Ascends offset) (farther : offset ≤ offset') :
    memo.Ascends offset' where
  apart := ascends.apart
  begun := fun word member => Nat.le_trans (ascends.begun word member) farther
  latest := ascends.latest
  measured := ascends.measured

/-- An offset that the latest word does not cover lies behind all words. -/
theorem Ascends.stop_le {memo : WordMemo} {offset : Nat}
    (ascends : memo.Ascends offset)
    (uncovered : memo.covering? offset = none) :
    ∀ word ∈ memo.words, word.stop ≤ offset := by
  rcases ascends with ⟨apart, begun, latestIs, _⟩
  rw [covering?, latestIs] at uncovered
  cases words : memo.words with
  | nil => exact nofun
  | cons latest earlier =>
      rw [words] at apart begun uncovered
      have latestBegun := begun latest List.mem_cons_self
      have passed : latest.stop ≤ offset := by
        simpa [Option.filter, Word.covers, latestBegun] using uncovered
      refine List.forall_mem_cons.2 ⟨passed, fun word member => ?_⟩
      have before := (List.pairwise_cons.1 apart).1 word member
      exact Nat.le_trans before latestBegun

/-- A word measured at such an offset comes behind all the others. -/
theorem Ascends.remember {memo : WordMemo} {offset : Nat}
    (ascends : memo.Ascends offset)
    (uncovered : memo.covering? offset = none) (rest : Text) :
    (memo.remember (Word.measure offset rest)).Ascends offset where
  apart := List.pairwise_cons.2 ⟨ascends.stop_le uncovered, ascends.apart⟩
  begun := List.forall_mem_cons.2 ⟨Nat.le_refl offset, ascends.begun⟩
  latest := rfl
  measured := by
    rw [WordMemo.remember, ascends.measured, List.map_cons, List.sum_cons,
      Nat.add_comm]

/-- To look up a word measures at the offset, or it measures nothing. -/
theorem Ascends.lookup {memo : WordMemo} {offset : Nat}
    (ascends : memo.Ascends offset) (rest : Text) :
    (memo.lookup offset rest).2.Ascends offset := by
  unfold WordMemo.lookup
  split
  · split
    · exact ascends
    · rename_i uncovered
      exact ascends.remember uncovered rest
  · exact ascends

/-- Words one behind the other are together no longer than what they lie in. -/
theorem sum_size_le {words : List Word} {bound : Nat}
    (apart : words.Pairwise fun later earlier => earlier.stop ≤ later.start)
    (inside : ∀ word ∈ words, word.start ≤ word.stop ∧ word.stop ≤ bound) :
    (words.map Word.size).sum ≤ bound := by
  induction words generalizing bound with
  | nil => exact Nat.zero_le bound
  | cons latest earlier hypothesis =>
      rw [List.pairwise_cons] at apart
      rw [List.forall_mem_cons] at inside
      have before : (earlier.map Word.size).sum ≤ latest.start :=
        hypothesis apart.2 fun word member =>
          ⟨(inside.2 word member).1, apart.1 word member⟩
      rw [List.map_cons, List.sum_cons, Word.size]
      omega

/-- Of words one behind the other at most one covers an offset. -/
theorem countP_covers_le {words : List Word}
    (apart : words.Pairwise fun later earlier => earlier.stop ≤ later.start)
    (offset : Nat) : words.countP (fun word => word.covers offset) ≤ 1 := by
  induction words with
  | nil => exact Nat.zero_le 1
  | cons latest earlier hypothesis =>
      rw [List.pairwise_cons] at apart
      cases covers : latest.covers offset with
      | false =>
          rw [List.countP_cons, covers, if_neg Bool.false_ne_true]
          exact hypothesis apart.2
      | true =>
          have others : earlier.countP (fun word => word.covers offset) = 0 := by
            rw [List.countP_eq_zero]
            intro word member coversToo
            have before := apart.1 word member
            simp only [Word.covers, Bool.and_eq_true,
              decide_eq_true_eq] at covers coversToo
            omega
          have one : (latest :: earlier).countP
              (fun word => word.covers offset) = 1 := by
            rw [List.countP_cons, others, if_pos covers]
          exact Nat.le_of_eq one

end WordMemo

/-- To try a rule keeps the words in order. -/
theorem Rule.ascends_match? {memo : WordMemo} {offset : Nat}
    (ascends : memo.Ascends offset) (rule : Rule) (rest : Text) :
    (rule.match? offset rest memo).2.Ascends offset := by
  have looked := ascends.lookup rest
  unfold Rule.match?
  split
  · exact ascends
  · split
    · exact ascends
    · exact ascends
    · split
      · rename_i found
        rw [found] at looked
        exact looked
      · rename_i found
        rw [found] at looked
        split <;> exact looked

theorem RuleTable.ascends_firstMatch {memo : WordMemo} {offset : Nat}
    (ascends : memo.Ascends offset) (table : RuleTable) (rest : Text) :
    (table.firstMatch offset rest memo).2.Ascends offset := by
  induction table generalizing memo with
  | nil => exact ascends
  | cons rule table hypothesis =>
      have tried := rule.ascends_match? ascends rest
      unfold RuleTable.firstMatch
      split
      · rename_i found
        rw [found] at tried
        exact tried
      · rename_i nothing
        rw [nothing] at tried
        exact hypothesis tried

namespace Lexer

/-- A match is passed with the memo that its search has left behind. -/
theorem ascends_step {lexer : Lexer} (character : Char)
    (ascends : lexer.memo.Ascends lexer.cursor) :
    (lexer.step character).lexer.memo.Ascends
      (lexer.step character).lexer.cursor := by
  have tried := lexer.table.ascends_firstMatch ascends lexer.remaining
  unfold step
  split
  · rename_i winner
    rw [winner] at tried
    exact tried.mono (Nat.le_add_right _ _)
  · rename_i nothing
    rw [nothing] at tried
    exact tried.mono (Nat.le_add_right _ _)

theorem ascends_next {lexer : Lexer} (cancel : Bool)
    (ascends : lexer.memo.Ascends lexer.cursor) :
    (lexer.next cancel).lexer.memo.Ascends (lexer.next cancel).lexer.cursor := by
  unfold next
  split
  · exact ascends
  · exact ascends
  · exact ascends
  · split
    · exact ascends
    · exact ascends_step _ ascends

end Lexer

namespace Session

theorem ascends_run (table : RuleTable) (source : Text)
    (commands : List Command) :
    let lexer := ((Session.new table source).run commands).2.lexer
    lexer.memo.Ascends lexer.cursor :=
  @run_preserves (fun lexer => lexer.memo.Ascends lexer.cursor)
    (fun cancel _ ascends => Lexer.ascends_next cancel ascends)
    (Session.new table source) commands (WordMemo.ascends_empty 0)

/--
Wherever a session gets to, the words that its scan has measured are words of
the source, each of them begins where those before it have ended, and no byte
lies in two of them.  The memo answers with the latest of them.  What it counts
is the sum of their sizes, and it is no more than the source holds.
-/
theorem run_measures_once (table : RuleTable) (source : Text)
    (commands : List Command) :
    let memo := ((Session.new table source).run commands).2.lexer.memo
    (∀ word ∈ memo.words, word.MeasuredIn source) ∧
      (memo.words.Pairwise fun later earlier => earlier.stop ≤ later.start) ∧
      (∀ offset, memo.words.countP (fun word => word.covers offset) ≤ 1) ∧
      memo.latest = memo.words.head? ∧
      memo.measured = (memo.words.map Word.size).sum ∧
      memo.measured ≤ Text.size source := by
  intro memo
  have sound : memo.Sound source := by
    have coherent := coherent_run table source commands
    rw [← source_run table source commands]
    exact coherent.memo
  have ascends : memo.Ascends _ := ascends_run table source commands
  have apart := ascends.apart
  refine ⟨sound.words, apart, WordMemo.countP_covers_le apart, sound.latest,
    ascends.measured, ?_⟩
  rw [ascends.measured]
  exact WordMemo.sum_size_le apart fun word member =>
    (sound.words word member).bounds

/-- The word `xy` is entered at its second character and not measured again. -/
theorem run_measures_once_inside :
    let table : RuleTable :=
      [{ name := "call", matcher := .head '(' .functionName .punctuation }]
    let memo := ((Session.new table "xy z(".toList).run
      [.next, .next, .next, .next]).2.lexer.memo
    memo.words = [⟨3, 4, some '('⟩, ⟨0, 2, some ' '⟩] ∧
      (∀ word ∈ memo.words, word.MeasuredIn "xy z(".toList) ∧
      (∀ offset, memo.words.countP (fun word => word.covers offset) ≤ 1) ∧
      memo.measured = 3 ∧ memo.measured ≤ 5 := by
  intro table memo
  rcases run_measures_once table "xy z(".toList
    [.next, .next, .next, .next] with ⟨measured, _, once, _, _, within⟩
  exact ⟨by decide +kernel, measured, once, by decide +kernel, within⟩

end Session

end BayesLex
