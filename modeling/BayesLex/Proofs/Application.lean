import BayesLex.Proofs.Tiling

/-!
# Rules applied one by one

Outside of a scan a rule may be applied at any offset of a source: forwards or
backwards, several rules in turn, inside of words and between them.
`Rule.apply` tells what an application answers, the end of its match and the
tokens that cover it, and how it leaves the memo.  `Call.answers` applies rules
in a row, all with one memo.

The main statement is that this memo is never noticed.  Whatever calls came
before, each call answers what it answers with a memo that holds nothing.  The
invariant is that every word of the memo has been measured at a place of the
source, so a source is also only cut between two characters where a word ends.
-/

namespace BayesLex

/-- Where a match ends and the tokens that cover it, if there is a match. -/
structure Outcome where
  stop : Option Nat := none
  tokens : List Token := []
  deriving DecidableEq

/-- What a match comes to that begins at an offset. -/
def Outcome.of (offset : Nat) : Option Match → Outcome
  | none => {}
  | some found =>
      { stop := some (offset + Text.size found.text)
        tokens := Token.layout offset found.lexemes }

namespace Rule

/--
Apply a rule at an offset of a source.  There is no outcome, and the memo stays
as it is, where the offset does not fall between two characters.
-/
def apply (rule : Rule) (source : Text) (offset : Nat) (memo : WordMemo) :
    Option Outcome × WordMemo :=
  match rule.matchAt? source offset memo with
  | none => (none, memo)
  | some (found, memo) => (some (Outcome.of offset found), memo)

/-- The outcome of a rule that is applied with a memo that holds nothing. -/
def outcome? (rule : Rule) (source : Text) (offset : Nat) : Option Outcome :=
  (rule.apply source offset {}).1

variable {source left rest : Text} {memo : WordMemo}

theorem apply_of_no_place (rule : Rule) {offset : Nat}
    (noPlace : Text.drop? offset source = none) :
    rule.apply source offset memo = (none, memo) := by
  simp [apply, matchAt?, noPlace]

/-- Applied at a place with a sound memo, a rule finds what it recognises. -/
theorem apply_size_append (rule : Rule) (sound : memo.Sound (left ++ rest)) :
    (rule.apply (left ++ rest) (Text.size left) memo).1 =
        some (Outcome.of (Text.size left) (rule.recognise rest)) ∧
      (rule.apply (left ++ rest) (Text.size left) memo).2.Sound
        (left ++ rest) := by
  rcases rule.match?_fst sound with ⟨found, soundAfter⟩
  simp only [apply, matchAt?, Text.drop?_size_append, Option.map_some]
  rw [← found]
  exact ⟨rfl, soundAfter⟩

/-- What a rule recognises behind a place is its outcome there. -/
theorem outcome?_size_append (rule : Rule) (left rest : Text) :
    rule.outcome? (left ++ rest) (Text.size left) =
      some (Outcome.of (Text.size left) (rule.recognise rest)) :=
  (rule.apply_size_append (WordMemo.sound_empty (left ++ rest))).1

/-- A sound memo is not noticed by a call, and the call keeps it sound. -/
theorem apply_of_sound (rule : Rule) (sound : memo.Sound source)
    (offset : Nat) :
    (rule.apply source offset memo).1 = rule.outcome? source offset ∧
      (rule.apply source offset memo).2.Sound source := by
  cases place : Text.drop? offset source with
  | none =>
      rw [outcome?, apply_of_no_place rule place, apply_of_no_place rule place]
      exact ⟨rfl, sound⟩
  | some rest =>
      rcases (Text.drop?_eq_some_iff offset source rest).1 place with
        ⟨left, rfl, rfl⟩
      rcases rule.apply_size_append sound with ⟨outcome, soundAfter⟩
      constructor
      · rw [outcome, outcome?_size_append]
      · exact soundAfter

/-- A match covers at least one byte, and between its ends lie its tokens. -/
theorem bounds_of_outcome? {rule : Rule} {start stop : Nat}
    {tokens : List Token}
    (matched : rule.outcome? source start =
      some { stop := some stop, tokens }) :
    start < stop ∧ ∀ token ∈ tokens,
      start ≤ token.start ∧ token.start < token.stop ∧ token.stop ≤ stop := by
  cases place : Text.drop? start source with
  | none =>
      rw [outcome?, apply_of_no_place rule place] at matched
      cases matched
  | some rest =>
      rcases (Text.drop?_eq_some_iff start source rest).1 place with
        ⟨left, rfl, rfl⟩
      rw [outcome?_size_append] at matched
      cases finds : rule.recognise rest with
      | none =>
          rw [finds] at matched
          cases matched
      | some found =>
          rw [finds] at matched
          cases matched
          have covers := covers_of_recognise finds
          constructor
          · exact Nat.lt_add_of_pos_right (Text.size_pos covers.text_ne_nil)
          · intro token member
            have bounds := Token.bounds_of_mem_layout member
            have among := List.mem_map_of_mem (f := Token.toLexeme) member
            rw [Token.map_toLexeme_layout] at among
            have solid := Text.size_pos (covers.solid _ among)
            exact ⟨bounds.1, Nat.lt_add_of_pos_right solid, bounds.2⟩

end Rule

/-- A rule and the offset at which it is applied. -/
structure Call where
  rule : Rule
  offset : Nat

namespace Call

/-- Answer calls one after the other, with one memo that they all share. -/
def answers (source : Text) :
    List Call → WordMemo → List (Option Outcome) × WordMemo
  | [], memo => ([], memo)
  | call :: calls, memo =>
      let (outcome, memo) := call.rule.apply source call.offset memo
      let (outcomes, memo) := answers source calls memo
      (outcome :: outcomes, memo)

/-- Calls that begin with a sound memo do not notice it, and keep it sound. -/
theorem answers_of_sound {source : Text} {memo : WordMemo}
    (sound : memo.Sound source) (calls : List Call) :
    (answers source calls memo).1 =
        calls.map (fun call => call.rule.outcome? source call.offset) ∧
      (answers source calls memo).2.Sound source := by
  induction calls generalizing memo with
  | nil => exact ⟨rfl, sound⟩
  | cons call calls hypothesis =>
      rcases call.rule.apply_of_sound sound call.offset with
        ⟨outcome, soundNext⟩
      rcases hypothesis soundNext with ⟨outcomes, soundLast⟩
      constructor
      · rw [List.map_cons, ← outcome, ← outcomes]
        rfl
      · exact soundLast

/-- The memo that calls on a source leave behind is sound for it. -/
theorem sound_answers (source : Text) (calls : List Call) :
    (answers source calls {}).2.Sound source :=
  (answers_of_sound (WordMemo.sound_empty source) calls).2

/--
Calls of any rules at any offsets, in any order and with one memo, have the
outcomes that each of them has with a memo that holds nothing.  The memo answers
with the latest of the words it has measured, behind each of them the source can
be cut, and the character noted for the word stands there.
-/
theorem answers_unnoticed (source : Text) (calls : List Call) :
    (answers source calls {}).1 =
        calls.map (fun call => call.rule.outcome? source call.offset) ∧
      (answers source calls {}).2.latest =
        (answers source calls {}).2.words.head? ∧
      ∀ word ∈ (answers source calls {}).2.words,
        ∃ rest, Text.drop? word.stop source = some rest ∧
          rest.head? = word.next := by
  rcases answers_of_sound (WordMemo.sound_empty source) calls with
    ⟨outcomes, sound⟩
  refine ⟨outcomes, sound.latest, ?_⟩
  intro word member
  exact (sound.words word member).drop?_stop

-- Only the work is shared: the second call finds the end of its word in the
-- memo, and the third one begins before that word and measures anew.
example :
    let rule : Rule :=
      { name := "call", matcher := .head '(' .functionName .punctuation }
    let calls := [Call.mk rule 1, Call.mk rule 2, Call.mk rule 0]
    (answers "xyz(".toList calls {}).2.measured = 5 := by
  decide

end Call

end BayesLex
