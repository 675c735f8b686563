import BayesLex.Proofs.Application
import BayesLex.Proofs.Regex.GroupSequence
import BayesLex.Proofs.Regex.Soundness

/-!
# Pattern rules match at the cursor

A pattern is anchored by its spelling: it is put between `^(?:` and `)`, and
the whole is read as one expression.  If the pattern is an expression itself, it
is read in that group as it is read alone (`RegexReader.foldlM_under`), so
whatever the rule matches begins at the cursor.

A pattern that closes a group it has not opened may leave the group it is put
into, and then an alternative of it may stand behind no anchor.
-/

namespace BayesLex

namespace RegexReader

/-- A reader with more groups around those that it has entered. -/
def under (reader : RegexReader) (frames : List Frame) : RegexReader :=
  { reader with outer := reader.outer ++ frames }

/-- An operation that does the same when there are more groups around. -/
def Encloses (operate : RegexReader → Option RegexReader) : Prop :=
  ∀ reader next frames, operate reader = some next →
    operate (reader.under frames) = some (next.under frames)

theorem encloses_none : Encloses (fun _ => none) :=
  fun _ _ _ => nofun

theorem encloses_some {operate : RegexReader → RegexReader}
    (commutes : ∀ reader frames,
      operate (reader.under frames) = (operate reader).under frames) :
    Encloses (fun reader => some (operate reader)) := by
  rintro reader _ frames ⟨⟩
  exact congrArg some (commutes reader frames)

theorem encloses_turn (mode : ReaderMode) :
    Encloses (fun reader => some { reader with mode }) :=
  encloses_some fun _ _ => rfl

theorem encloses_push (item : Piece) :
    Encloses (fun reader => some (reader.push item)) :=
  encloses_some fun _ _ => rfl

/-- The group that is left lies within those that are around. -/
theorem encloses_leave : Encloses leave := by
  intro reader next frames left
  rcases leave_eq_some left with ⟨frame, outer, around, low, rfl⟩
  rcases reader with ⟨inner, _, groups, names, mode⟩
  cases around
  exact if_pos low

theorem encloses_take (next : Piece → ReaderMode) :
    Encloses (fun reader => reader.take next) := by
  intro reader taken frames made
  rcases take_eq_some made with ⟨body, items, last, low, rfl⟩
  rcases reader with ⟨⟨index, earlier, _⟩, outer, groups, names, mode⟩
  cases last
  exact if_pos low

theorem encloses_begin (character : Char) :
    Encloses (fun reader => reader.begin character) := by
  unfold begin
  split
  · exact encloses_turn .opened
  · exact encloses_leave
  · exact encloses_some fun _ _ => rfl
  · exact encloses_turn (.set {})
  · exact encloses_turn .escaped
  · exact encloses_take _
  · exact encloses_take _
  · exact encloses_take _
  · exact encloses_take _
  all_goals exact encloses_push _

theorem Encloses.after {operate : RegexReader → Option RegexReader}
    (encloses : Encloses operate) {first : RegexReader → RegexReader}
    (commutes : ∀ reader frames,
      first (reader.under frames) = (first reader).under frames) :
    Encloses (fun reader => operate (first reader)) := by
  intro reader next frames made
  dsimp only
  rw [commutes]
  exact encloses _ _ frames made

/-- What the reader does in a mode, it does in more groups as well. -/
theorem encloses_step (mode : ReaderMode) (character : Char) :
    Encloses (fun reader => step { reader with mode } character) := by
  cases mode with
  | plain => exact (encloses_begin character).after fun _ _ => rfl
  | escaped =>
      simp only [step]
      split
      · exact encloses_push _
      · cases CharClass.ofEscape? character with
        | none => exact encloses_none
        | some charClass => exact encloses_push _
  | repeated body bounds =>
      simp only [step]
      split
      · exact encloses_some fun _ _ => rfl
      · exact (encloses_begin character).after fun _ _ => rfl
  | counting body read =>
      simp only [step]
      split
      · split
        · exact encloses_push _
        · cases Bounds.ofText? read.reverse with
          | none => exact encloses_none
          | some bounds => exact encloses_turn _
      · exact encloses_turn _
  | set setReader =>
      simp only [step]
      cases setReader.step character with
      | none => exact encloses_none
      | some reading =>
          cases reading with
          | partway next => exact encloses_turn _
          | complete brackets => exact encloses_push _
  | opened =>
      simp only [step]
      split
      · exact encloses_turn .special
      · exact (encloses_begin character).after fun _ _ => rfl
  | special =>
      simp only [step]
      split
      · exact encloses_some fun _ _ => rfl
      · exact encloses_turn .named
      · exact encloses_turn (.naming [])
      · exact encloses_none
  | named =>
      simp only [step]
      split
      · exact encloses_turn (.naming [])
      · exact encloses_none
  | naming read =>
      simp only [step]
      split
      · intro reader next frames made
        dsimp only at made ⊢
        split at made
        · rename_i fresh
          cases made
          exact if_pos fresh
        · cases made
      · exact encloses_turn _

/-- A text is read in more groups as it is read in fewer. -/
theorem foldlM_under {text : Text} {reader next : RegexReader}
    (read : text.foldlM step reader = some next) (frames : List Frame) :
    text.foldlM step (reader.under frames) = some (next.under frames) := by
  induction text generalizing reader with
  | nil =>
      cases read
      rfl
  | cons character rest hypothesis =>
      rcases foldlM_step_cons read with ⟨middle, first, others⟩
      have enclosed : (reader.under frames).step character =
          some (middle.under frames) :=
        encloses_step reader.mode character reader middle frames first
      rw [List.foldlM_cons, enclosed]
      exact hypothesis others

/-- In front of the end of a group around it, a reader has one group left. -/
theorem leave_under {reader next : RegexReader} {frame : Frame}
    (complete : reader.outer = [])
    (left : (reader.under [frame]).leave = some next) :
    ∃ index, next.finish = some
      (frame.push (reader.frame.body.group index)).body := by
  rcases reader with ⟨inner, _, groups, names, mode⟩
  cases complete
  rcases leave_eq_some left with ⟨_, _, around, _, rfl⟩
  cases around
  exact ⟨inner.index, rfl⟩

/-- Where an expression may end, the group that it stands in may be closed. -/
theorem finish_under {reader next : RegexReader} {body : Piece} {frame : Frame}
    (finished : reader.finish = some body)
    (read : (reader.under [frame]).step ')' = some next) :
    ∃ index, next.finish = some (frame.push (body.group index)).body := by
  rcases reader with ⟨inner, _ | ⟨around, outer⟩, groups, names, mode⟩
  · cases mode with
    | plain =>
        cases finished
        exact leave_under rfl read
    | repeated last bounds =>
        cases finished
        -- The parenthesis completes the repetition before it ends the group.
        let repeated : RegexReader :=
          pushRepeated { frame := inner, groups, names } last bounds true
        have left : (repeated.under [frame]).leave = some next := read
        exact leave_under rfl left
    | _ => cases finished
  · cases finished

end RegexReader

namespace Regex

variable {text : Text} {start stop : Nat}

theorem matches_group_iff (index : Option Nat) (body : Piece) :
    (body.group index).regex.Matches text start stop ↔
      body.regex.Matches text start stop := by
  cases index <;> exact Iff.rfl

/--
An expression that is anchored matches from the start of a text only, and
there it matches what it matches without the anchor.
-/
theorem matches_anchor_iff {expression : Text} {body regex : Regex}
    (valid : parse? expression = some body)
    (parsed : parse? (Rule.anchor expression) = some regex) :
    regex.Matches text start stop ↔ start = 0 ∧ body.Matches text 0 stop := by
  rcases exists_of_parse? valid with ⟨inner, piece, read, finished, rfl⟩
  rcases exists_of_parse? parsed with ⟨reader, whole, all, complete, rfl⟩
  have enclosed : expression.foldlM RegexReader.step anchorReader =
      some (inner.under anchorReader.outer) :=
    RegexReader.foldlM_under read anchorReader.outer
  rw [Rule.anchor, List.append_assoc,
    RegexReader.foldlM_step_append foldlM_step_anchor,
    RegexReader.foldlM_step_append enclosed] at all
  rcases RegexReader.foldlM_step_cons all with ⟨last, closed, ⟨⟩⟩
  rcases RegexReader.finish_under finished closed with ⟨index, finishes⟩
  cases complete.symm.trans finishes
  exact (matches_textStart_iff (piece.group index).regex).trans
    (and_congr_right fun _ => matches_group_iff index piece)

end Regex

namespace Rule

/-- A match of one kind is a run of the engine, and one token covers it. -/
theorem apply_pattern_one {name : String} {expression left rest : Text}
    {engine : Engine} {kind : Kind} {memo : WordMemo} {outcome : Outcome}
    (applied : (apply
      { name, matcher := .pattern expression engine (.one kind) }
      (left ++ rest) (Text.size left) memo).1 = some outcome)
    (matched : outcome.stop ≠ none) :
    ∃ run, engine.find? rest = some run ∧
      outcome.stop = some (Text.size left + Text.size (rest.take run.taken)) ∧
      outcome.tokens = [⟨⟨kind, rest.take run.taken⟩, Text.size left⟩] := by
  rw [apply, matchAt?, Text.drop?_size_append] at applied
  replace applied : some (Outcome.of (Text.size left)
      ((engine.find? rest).bind ((Emission.one kind).cut rest))) =
      some outcome := applied
  cases applied
  cases found : engine.find? rest with
  | none =>
      rw [found] at matched
      exact absurd rfl matched
  | some run =>
      rw [found] at matched
      refine ⟨run, rfl, ?_⟩
      rw [Option.bind_some, Emission.cut] at matched ⊢
      cases taken : rest.take run.taken with
      | nil =>
          rw [taken] at matched
          exact absurd rfl matched
      | cons character others =>
          simp [Match.single?, Outcome.of, Match.text, Match.lexemes]

/--
A pattern that is an expression itself matches at the cursor.  Wherever a rule
of one kind with such a pattern is applied to a source and matches, the match
of the anchored expression begins at the offset and nowhere behind it, what it
matches is what the pattern itself matches from there on, and the token covers
exactly this.
-/
theorem apply_begins_at_cursor {name : String} {expression : Text}
    {body : Regex} {kind : Kind} {rule : Rule}
    (valid : Regex.parse? expression = some body)
    (made : pattern name expression (.one kind) = .ok rule)
    (source : Text) (offset : Nat) (memo : WordMemo) (outcome : Outcome)
    (applied : (rule.apply source offset memo).1 = some outcome)
    (matched : outcome.stop ≠ none) :
    ∃ regex rest run,
      Regex.parse? (anchor expression) = some regex ∧
      rule.matcher =
        .pattern (anchor expression) regex.engine (.one kind) ∧
      Text.drop? offset source = some rest ∧
      regex.engine.find? rest = some run ∧
      (∀ first, regex.Matches rest first run.taken ↔ first = 0) ∧
      body.Matches rest 0 run.taken ∧
      outcome.stop = some (offset + Text.size (rest.take run.taken)) ∧
      outcome.tokens = [⟨⟨kind, rest.take run.taken⟩, offset⟩] := by
  rcases patternBy_eq_ok_iff.1 made with ⟨_, compiled, _, rfl⟩
  rcases Regex.compile?_eq_some_iff.1 compiled with ⟨regex, parsed, rfl⟩
  cases place : Text.drop? offset source with
  | none =>
      rw [apply_of_no_place _ place] at applied
      cases applied
  | some rest =>
      rcases (Text.drop?_eq_some_iff offset source rest).1 place with
        ⟨left, rfl, rfl⟩
      rcases apply_pattern_one applied matched with
        ⟨run, found, stop, tokens⟩
      have anchored (first : Nat) :
          regex.Matches rest first run.taken ↔
            first = 0 ∧ body.Matches rest 0 run.taken :=
        Regex.matches_anchor_iff valid parsed
      rcases Regex.exists_matches_of_find? found with ⟨first, somewhere⟩
      have here : body.Matches rest 0 run.taken :=
        ((anchored first).1 somewhere).2
      refine ⟨regex, rest, run, parsed, rfl, rfl, found, ?_, here, stop, tokens⟩
      intro first
      rw [anchored, and_iff_left here]

/-- Of two alternatives the second one matches at the cursor, and not before it. -/
theorem apply_begins_at_cursor_alternative :
    let source := "éxb".toList
    let outcome : Outcome :=
      { stop := some 4, tokens := [⟨⟨.identifier, "b".toList⟩, 3⟩] }
    ∃ rule regex, pattern "either" "ab|b".toList (.one .identifier) = .ok rule ∧
      Regex.parse? (anchor "ab|b".toList) = some regex ∧
      (rule.apply source 2 {}).1 = some {} ∧
      (rule.apply source 3 {}).1 = some outcome ∧
      ∀ first, regex.Matches "b".toList first 1 ↔ first = 0 := by
  intro source outcome
  let body : Regex :=
    .alt (.seq (.one (.single 'a')) (.one (.single 'b'))) (.one (.single 'b'))
  let regex : Regex := .seq (.assertion .textStart) body
  let rule : Rule :=
    { name := "either"
      matcher :=
        .pattern (anchor "ab|b".toList) regex.engine (.one .identifier) }
  have valid : Regex.parse? "ab|b".toList = some body := by decide +kernel
  have parsed : Regex.parse? (anchor "ab|b".toList) = some regex := by
    decide +kernel
  have made : pattern "either" "ab|b".toList (.one .identifier) = .ok rule :=
    pattern_eq_ok parsed (by rintro _ ⟨⟩) _
  have applied : (rule.apply source 3 {}).1 = some outcome := by decide +kernel
  have found : regex.engine.find? "b".toList =
      some { taken := 1, captures := [] } := by
    decide +kernel
  have place : Text.drop? 3 source = some "b".toList := by decide +kernel
  rcases apply_begins_at_cursor valid made source 3 {} outcome applied nofun with
    ⟨_, rest, run, parsedToo, _, restPlace, runFound, begins, _⟩
  cases parsed.symm.trans parsedToo
  cases place.symm.trans restPlace
  cases found.symm.trans runFound
  exact ⟨rule, regex, made, parsed, by decide +kernel, applied, begins⟩

/--
A pattern that closes the group it is put into matches behind the cursor, and
the character between them gets into the token.
-/
theorem apply_begins_behind_cursor :
    let source := "xb".toList
    let expression := "a)|(?:b".toList
    ∃ rule regex run, pattern "apart" expression (.one .identifier) = .ok rule ∧
      Regex.parse? (anchor expression) = some regex ∧
      Regex.parse? expression = none ∧
      (rule.apply source 0 {}).1 =
        some { stop := some 2, tokens := [⟨⟨.identifier, source⟩, 0⟩] } ∧
      regex.engine.find? source = some run ∧
      ∀ first, regex.Matches source first run.taken ↔ first = 1 := by
  intro source expression
  let regex : Regex :=
    .alt (.seq (.assertion .textStart) (.one (.single 'a'))) (.one (.single 'b'))
  let rule : Rule :=
    { name := "apart"
      matcher :=
        .pattern (anchor expression) regex.engine (.one .identifier) }
  have parsed : Regex.parse? (anchor expression) = some regex := by
    decide +kernel
  have made : pattern "apart" expression (.one .identifier) = .ok rule :=
    pattern_eq_ok parsed (by rintro _ ⟨⟩) _
  refine ⟨rule, regex, { taken := 2, captures := [] }, made, parsed,
    by decide +kernel, by decide +kernel, by decide +kernel, ?_⟩
  intro first
  constructor
  · rintro (⟨_, ⟨rfl, begins⟩, next, _⟩ | ⟨next, _⟩)
    · cases (beq_iff_eq.1 begins : first = 0)
      cases next
    · exact Nat.succ.inj next
  · rintro rfl
    exact Or.inr ⟨rfl, by decide +kernel⟩

end Rule

end BayesLex
