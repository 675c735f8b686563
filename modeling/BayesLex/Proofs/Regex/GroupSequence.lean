import BayesLex.Proofs.Regex.Nesting
import BayesLex.Rule
import Mathlib.Data.List.Forall2

/-!
# Sequences of capture groups

An expression that is written as capture groups one behind the other, whose
bodies are valid by themselves and open no capture group, is read as these
groups one behind the other, with the numbers from one on: each body is the
expression that is read for it alone.
-/

namespace BayesLex

namespace RegexReader

/-- A capture group has been read, whose body is a part. -/
def pushGroup (reader : RegexReader) (body : Piece) : RegexReader :=
  { reader.push (body.group (some (reader.groups + 1))) with
    groups := reader.groups + 1 }

theorem leave_within {reader outside next : RegexReader}
    (complete : reader.outer = [])
    (left : (reader.within outside.enterCapture).leave = some next) :
    next = outside.pushGroup reader.frame.body := by
  rcases reader with ⟨frame, _, groups, names, mode⟩
  cases complete
  rcases leave_eq_some left with ⟨_, _, around, _, rfl⟩
  cases around
  rfl

/-- What is complete by itself makes a group that is left at its parenthesis. -/
theorem step_close {reader outside next : RegexReader} {body : Piece}
    (finished : reader.finish = some body)
    (read : (reader.within outside.enterCapture).step ')' = some next) :
    next = outside.pushGroup body := by
  rcases reader with ⟨frame, _ | ⟨around, outer⟩, groups, names, mode⟩
  · cases mode with
    | plain =>
        cases finished
        exact leave_within rfl read
    | repeated last bounds =>
        cases finished
        -- The parenthesis completes the repetition before it ends the group.
        let repeated : RegexReader :=
          pushRepeated { frame, groups, names } last bounds true
        have left : (repeated.within outside.enterCapture).leave = some next :=
          read
        exact leave_within rfl left
    | _ => cases finished
  · cases finished

theorem Ungrouped.finish {reader : RegexReader} {body : Piece}
    (ungrouped : reader.Ungrouped) (finished : reader.finish = some body) :
    body.Ungrouped := by
  unfold RegexReader.finish at finished
  split at finished
  · split at finished
    · cases finished
      exact ungrouped.frame.body
    · rename_i last bounds repeats
      have lastUngrouped : last.Ungrouped := by
        have mode := ungrouped.mode
        rwa [repeats] at mode
      cases finished
      exact (ungrouped.frame.push (lastUngrouped.repeated _)).body
    · cases finished
  · cases finished

end RegexReader

namespace Regex

/-- A valid expression that opens no capture group, and what is read for it. -/
structure Captureless (expression : Text) (regex : Regex) : Prop where
  parsed : parse? expression = some regex
  count : captureCount? expression = some 0

/-- What has been parsed has been read, and nothing in it is left open. -/
theorem exists_of_parse? {expression : Text} {regex : Regex}
    (parsed : parse? expression = some regex) :
    ∃ reader body, expression.foldlM RegexReader.step {} = some reader ∧
      reader.finish = some body ∧ body.regex = regex := by
  unfold parse? at parsed
  split at parsed
  · cases parsed
  · rename_i body complete
    rw [Option.ite_none_right_eq_some, Option.some.injEq] at parsed
    rcases Option.bind_eq_some_iff.1 complete with ⟨reader, read, finished⟩
    exact ⟨reader, body, read, finished, parsed.2⟩

/-- Capture groups one behind the other. -/
def groupSequence (bodies : List Text) : Text :=
  bodies.flatMap fun body => '(' :: (body ++ [')'])

theorem groupSequence_cons_append (body : Text) (bodies : List Text)
    (rest : Text) :
    groupSequence (body :: bodies) ++ rest =
      '(' :: (body ++ ')' :: (groupSequence bodies ++ rest)) := by
  simp [groupSequence]

namespace Captureless

variable {expression : Text} {regex : Regex}

/-- The reader of the expression, and what it has read. -/
theorem read (captureless : Captureless expression regex) :
    ∃ reader body, expression.foldlM RegexReader.step {} = some reader ∧
      reader.groups = 0 ∧ reader.finish = some body ∧ body.regex = regex := by
  rcases exists_of_parse? captureless.parsed with
    ⟨reader, body, read, finished, regexRead⟩
  have count := captureless.count
  rw [captureCount?, read] at count
  exact ⟨reader, body, read, Option.some.inj count, finished, regexRead⟩

theorem ungrouped (captureless : Captureless expression regex) :
    regex.Ungrouped := by
  rcases captureless.read with ⟨reader, body, read, groups, finished, rfl⟩
  have start : RegexReader.Ungrouped {} :=
    ⟨Frame.ungrouped_empty, nofun, trivial⟩
  exact (start.foldlM read groups).finish finished

theorem head?_ne (captureless : Captureless expression regex) :
    expression.head? ≠ some '?' := by
  intro begins
  rcases List.head?_eq_some_iff.1 begins with ⟨rest, rfl⟩
  cases captureless.parsed

theorem ungrouped_of_forall₂ {expressions : List Text} {regexes : List Regex}
    (captureless : List.Forall₂ Captureless expressions regexes) :
    ∀ regex ∈ regexes, regex.Ungrouped := by
  induction captureless with
  | nil => nofun
  | cons first others hypothesis =>
      exact List.forall_mem_cons.2 ⟨first.ungrouped, hypothesis⟩

end Captureless

end Regex

namespace RegexReader

/-- Behind an opening parenthesis the text of a capture group is read. -/
theorem foldlM_of_opened {text : Text} (nonempty : text ≠ [])
    (different : text.head? ≠ some '?') (reader : RegexReader) :
    text.foldlM step { reader with mode := .opened } =
      text.foldlM step reader.enterCapture := by
  cases text with
  | nil => exact absurd rfl nonempty
  | cons character rest =>
      have other : character ≠ '?' := by
        rintro rfl
        exact different rfl
      have first : step { reader with mode := .opened } character =
          reader.enterCapture.step character := step_of_opened rfl other
      rw [List.foldlM_cons, List.foldlM_cons, first]

/-- A capture group is read as its body is read alone. -/
theorem foldlM_grouped {expression : Text} {regex : Regex}
    (captureless : Regex.Captureless expression regex)
    {reader next : RegexReader} (plain : reader.mode = .plain) {rest : Text}
    (read : ('(' :: (expression ++ ')' :: rest)).foldlM step reader =
      some next) :
    ∃ body, body.regex = regex ∧
      rest.foldlM step (reader.pushGroup body) = some next := by
  rcases captureless.read with
    ⟨inner, body, innerRead, groups, finished, regexRead⟩
  have settled : expression.foldlM step reader.enterCapture =
      some (inner.within reader.enterCapture) :=
    foldlM_within innerRead groups reader.enterCapture
  have different : (expression ++ ')' :: rest).head? ≠ some '?' := by
    cases expression with
    | nil => simp
    | cons => exact captureless.head?_ne
  rcases foldlM_step_cons read with ⟨opened, first, others⟩
  simp only [step, plain] at first
  cases first
  rw [foldlM_of_opened (by simp) different,
    foldlM_step_append settled] at others
  rcases foldlM_step_cons others with ⟨closed, last, behind⟩
  cases step_close finished last
  exact ⟨body, regexRead, behind⟩

/-- Capture groups in a row are added to the branch with rising numbers. -/
theorem foldlM_groupSequence {bodies : List Text} {regexes : List Regex}
    (captureless : List.Forall₂ Regex.Captureless bodies regexes)
    {reader next : RegexReader} (plain : reader.mode = .plain) {rest : Text}
    (read : (Regex.groupSequence bodies ++ rest).foldlM step reader =
      some next) :
    ∃ (items : List Piece) (groups : Nat), items.map Piece.regex =
        Regex.groupsFrom (reader.groups + 1) regexes ∧
      rest.foldlM step
        { reader with
          frame :=
            { reader.frame with items := items.reverse ++ reader.frame.items }
          groups } =
        some next := by
  induction captureless generalizing reader with
  | nil => exact ⟨[], reader.groups, rfl, read⟩
  | cons first others hypothesis =>
      rw [Regex.groupSequence_cons_append] at read
      rcases foldlM_grouped first plain read with ⟨body, rfl, behind⟩
      rcases hypothesis rfl behind with ⟨items, groups, regexes, ends⟩
      refine ⟨body.group (some (reader.groups + 1)) :: items, groups,
        congrArg _ regexes, ?_⟩
      rw [List.reverse_cons, List.append_assoc, plain]
      exact ends

end RegexReader

namespace Regex

/-- Expressions none of which is empty or a sequence are what a chain holds. -/
theorem items_chain {regexes : List Regex}
    (single : ∀ regex ∈ regexes, regex.items = [regex]) :
    (chain regexes).items = regexes := by
  fun_induction chain regexes with
  | case1 => rfl
  | case2 regex => exact single regex List.mem_cons_self
  | case3 first second rest hypothesis =>
      rw [List.forall_mem_cons] at single
      rw [items, single.1, hypothesis single.2]
      rfl

theorem sequence_eq_chain {regexes : List Regex}
    (single : ∀ regex ∈ regexes, regex.items = [regex]) :
    sequence regexes = chain regexes := by
  have same : regexes.flatMap items = regexes := by
    induction regexes with
    | nil => rfl
    | cons first rest hypothesis =>
        rw [List.forall_mem_cons] at single
        rw [List.flatMap_cons, single.1, hypothesis single.2]
        rfl
  rw [sequence, same]

theorem sequence_textStart {regexes : List Regex}
    (single : ∀ regex ∈ regexes, regex.items = [regex])
    (nonempty : regexes ≠ []) :
    sequence [.assertion .textStart, chain regexes] =
      (chain regexes).anchored := by
  have all : [.assertion .textStart, chain regexes].flatMap items =
      .assertion .textStart :: regexes := by
    rw [List.flatMap_cons, List.flatMap_singleton, items_chain single]
    rfl
  rw [sequence, all]
  cases regexes with
  | nil => exact absurd rfl nonempty
  | cons => rfl

theorem items_of_mem_groupsFrom {index : Nat} {bodies : List Regex} :
    ∀ regex ∈ groupsFrom index bodies, regex.items = [regex] := by
  induction bodies generalizing index with
  | nil => nofun
  | cons body bodies hypothesis =>
      exact List.forall_mem_cons.2 ⟨rfl, hypothesis⟩

end Regex

theorem Piece.regex_sequence {pieces : List Piece}
    (single : ∀ item ∈ pieces.map regex, item.items = [item]) :
    (sequence pieces).regex = Regex.chain (pieces.map regex) := by
  match pieces with
  | [] | [_] => rfl
  | _ :: _ :: _ => exact Regex.sequence_eq_chain single

namespace Regex

/-- The reader in front of an expression that is anchored. -/
def anchorReader : RegexReader where
  outer := [{ items := [.leaf (.assertion .textStart)] }]

theorem foldlM_step_anchor :
    "^(?:".toList.foldlM RegexReader.step {} = some anchorReader := by
  decide +kernel

/-- What an anchored sequence of groups is read as, if it can be read. -/
theorem parse?_groupSequence {bodies : List Text} {regexes : List Regex}
    (captureless : List.Forall₂ Captureless bodies regexes)
    (nonempty : bodies ≠ []) {regex : Regex}
    (parsed : parse? (Rule.anchor (groupSequence bodies)) = some regex) :
    regex = (chain (groupsFrom 1 regexes)).anchored := by
  rcases exists_of_parse? parsed with ⟨reader, body, read, finished, rfl⟩
  rw [Rule.anchor, List.append_assoc,
    RegexReader.foldlM_step_append foldlM_step_anchor] at read
  rcases RegexReader.foldlM_groupSequence captureless rfl read with
    ⟨items, groups, made, ends⟩
  have single : ∀ item ∈ items.map Piece.regex, item.items = [item] :=
    made ▸ items_of_mem_groupsFrom
  let inner : RegexReader :=
    { frame := { items := items.reverse ++ [] }
      outer := anchorReader.outer, groups }
  have close : inner.leave = some reader := by
    rcases RegexReader.foldlM_step_cons ends with ⟨left, close, ⟨⟩⟩
    exact close
  rcases RegexReader.leave_eq_some close with ⟨_, _, ⟨⟩, _, rfl⟩
  cases finished
  have innerRegex : inner.frame.body.regex = chain (groupsFrom 1 regexes) := by
    have body : inner.frame.body = Piece.sequence items := by
      change Piece.sequence (items.reverse ++ []).reverse = _
      rw [List.append_nil, List.reverse_reverse]
    rw [body, Piece.regex_sequence single, made]
    rfl
  change sequence [.assertion .textStart, inner.frame.body.regex] = _
  rw [innerRegex]
  apply sequence_textStart items_of_mem_groupsFrom
  cases captureless with
  | nil => exact absurd rfl nonempty
  | cons => nofun

end Regex

end BayesLex
