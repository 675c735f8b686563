import BayesLex.Proofs.Regex.Consecutive
import BayesLex.Regex.Reader

/-!
# Reading inside a group

What stands in a group is read as if it stood alone: the reader works on the
frames of what it has opened itself, and never on the groups around it.  So a
reader can be put into the group that another one has just entered
(`RegexReader.within`), and every step that opens no capture group does there
what it does alone.

An expression in which no capture group is opened has none
(`RegexReader.foldlM_within`).  It follows what is read for a sequence of groups
whose bodies are such expressions.
-/

namespace BayesLex

/-- A part in which no capture group stands. -/
def Piece.Ungrouped (piece : Piece) : Prop :=
  piece.regex.Ungrouped

namespace Piece

theorem ungrouped_join {combine : List Regex → Regex} {pieces : List Piece}
    (keeps : ∀ regexes : List Regex, (∀ regex ∈ regexes, regex.Ungrouped) →
      (combine regexes).Ungrouped)
    (ungrouped : ∀ piece ∈ pieces, piece.Ungrouped) :
    (join combine pieces).Ungrouped := by
  unfold join
  split
  · exact List.forall_mem_singleton.1 ungrouped
  · apply keeps
    intro regex member
    rcases List.mem_map.1 member with ⟨piece, among, rfl⟩
    exact ungrouped piece among

theorem ungrouped_sequence {pieces : List Piece}
    (ungrouped : ∀ piece ∈ pieces, piece.Ungrouped) :
    (sequence pieces).Ungrouped := by
  unfold sequence
  split
  · exact trivial
  · exact ungrouped_join (fun _ => Regex.ungrouped_sequence) ungrouped

theorem ungrouped_of_named? {piece item : Piece} {name : Text}
    (named : piece.named? name = some item) : item.Ungrouped := by
  rw [named?, Option.ite_none_right_eq_some, Option.map_eq_some_iff] at named
  rcases named with ⟨_, assertion, _, rfl⟩
  exact trivial

theorem Ungrouped.repeated {body : Piece} (ungrouped : body.Ungrouped)
    (repetition : Repetition) : (body.repeated repetition).Ungrouped :=
  Regex.ungrouped_repeated ungrouped repetition

end Piece

/-- A group that captures nothing and in which no capture group stands yet. -/
structure Frame.Ungrouped (frame : Frame) : Prop where
  index : frame.index = none
  earlier : ∀ piece ∈ frame.earlier, piece.Ungrouped
  items : ∀ piece ∈ frame.items, piece.Ungrouped

namespace Frame

theorem ungrouped_empty : Ungrouped {} :=
  ⟨rfl, nofun, nofun⟩

theorem Ungrouped.push {frame : Frame} {item : Piece}
    (ungrouped : frame.Ungrouped) (itemUngrouped : item.Ungrouped) :
    (frame.push item).Ungrouped where
  index := ungrouped.index
  earlier := ungrouped.earlier
  items := List.forall_mem_cons.2 ⟨itemUngrouped, ungrouped.items⟩

theorem Ungrouped.branches {frame : Frame} (ungrouped : frame.Ungrouped) :
    ∀ piece ∈ frame.branches, piece.Ungrouped := by
  refine List.forall_mem_cons.2 ⟨Piece.ungrouped_sequence ?_, ungrouped.earlier⟩
  intro piece member
  exact ungrouped.items piece (List.mem_reverse.1 member)

theorem Ungrouped.branch {frame : Frame} (ungrouped : frame.Ungrouped) :
    frame.branch.Ungrouped where
  index := ungrouped.index
  earlier := ungrouped.branches
  items := nofun

theorem Ungrouped.body {frame : Frame} (ungrouped : frame.Ungrouped) :
    frame.body.Ungrouped := by
  apply Piece.ungrouped_join (fun _ => Regex.ungrouped_alternatives)
  intro piece member
  exact ungrouped.branches piece (List.mem_reverse.1 member)

theorem Ungrouped.close {frame : Frame} (ungrouped : frame.Ungrouped) :
    frame.close.Ungrouped := by
  unfold Frame.close
  rw [ungrouped.index]
  exact ungrouped.body

end Frame

/-- The part that is to be repeated captures nothing. -/
def ReaderMode.Ungrouped : ReaderMode → Prop
  | repeated body _ | counting body _ => body.Ungrouped
  | _ => True

/-- No capture group has been read. -/
structure RegexReader.Ungrouped (reader : RegexReader) : Prop where
  frame : reader.frame.Ungrouped
  outer : ∀ frame ∈ reader.outer, frame.Ungrouped
  mode : reader.mode.Ungrouped

namespace RegexReader

/-- The frames of a reader in the group that another reader has entered. -/
def settle (context : RegexReader) : Frame → List Frame → Frame × List Frame
  | bottom, [] =>
      ({ bottom with index := context.frame.index }, context.outer)
  | frame, next :: outer =>
      let below := settle context next outer
      (frame, below.1 :: below.2)

/-- A reader put into the group that another reader has entered. -/
def within (reader context : RegexReader) : RegexReader :=
  let frames := settle context reader.frame reader.outer
  { context with
    frame := frames.1
    outer := frames.2
    mode := reader.mode }

/--
An operation that works on what the reader has opened itself.  Unless it opens
a capture group, it does the same in a group of another reader, and where it
only has to do with parts that are `safe` it leaves no capture group.
-/
structure Confined (safe : Prop)
    (operate : RegexReader → Option RegexReader) : Prop where
  grows : ∀ {reader next}, operate reader = some next →
    reader.groups ≤ next.groups
  settles : ∀ {reader next}, operate reader = some next →
    next.groups = reader.groups → ∀ context,
      operate (reader.within context) = some (next.within context)
  keeps : ∀ {reader next}, operate reader = some next →
    next.groups = reader.groups → safe → reader.Ungrouped → next.Ungrouped

section Operations

variable {safe : Prop}

theorem Confined.bind {first second : RegexReader → Option RegexReader}
    (firstConfined : Confined safe first)
    (secondConfined : Confined safe second) :
    Confined safe (fun reader => (first reader).bind second) where
  grows made := by
    rcases Option.bind_eq_some_iff.1 made with ⟨middle, begins, ends⟩
    exact Nat.le_trans (firstConfined.grows begins) (secondConfined.grows ends)
  settles made same context := by
    rcases Option.bind_eq_some_iff.1 made with ⟨middle, begins, ends⟩
    have below := firstConfined.grows begins
    have above := secondConfined.grows ends
    rw [firstConfined.settles begins (by omega) context]
    exact secondConfined.settles ends (by omega) context
  keeps made same isSafe ungrouped := by
    rcases Option.bind_eq_some_iff.1 made with ⟨middle, begins, ends⟩
    have below := firstConfined.grows begins
    have above := secondConfined.grows ends
    exact secondConfined.keeps ends (by omega) isSafe
      (firstConfined.keeps begins (by omega) isSafe ungrouped)

theorem confined_none : Confined safe (fun _ => none) :=
  ⟨nofun, nofun, nofun⟩

theorem confined_some {operate : RegexReader → RegexReader}
    (groups : ∀ reader, (operate reader).groups = reader.groups)
    (settles : ∀ reader context,
      operate (reader.within context) = (operate reader).within context)
    (keeps : safe → ∀ reader, reader.Ungrouped → (operate reader).Ungrouped) :
    Confined safe (fun reader => some (operate reader)) where
  grows := by
    rintro reader _ ⟨⟩
    exact Nat.le_of_eq (groups reader).symm
  settles := by
    rintro reader _ ⟨⟩ _ context
    rw [settles]
  keeps := by
    rintro reader _ ⟨⟩ _ isSafe ungrouped
    exact keeps isSafe reader ungrouped

/-- To open a capture group is confined, since it is counted. -/
theorem confined_of_lt {operate : RegexReader → Option RegexReader}
    (opens : ∀ {reader next}, operate reader = some next →
      reader.groups < next.groups) : Confined safe operate where
  grows made := Nat.le_of_lt (opens made)
  settles made same := absurd same (Nat.ne_of_gt (opens made))
  keeps made same := absurd same (Nat.ne_of_gt (opens made))

theorem confined_turn {mode : ReaderMode} (ungrouped : safe → mode.Ungrouped) :
    Confined safe (fun reader => some { reader with mode }) := by
  refine confined_some (fun _ => rfl) (fun _ _ => rfl) ?_
  intro isSafe reader readerUngrouped
  exact ⟨readerUngrouped.frame, readerUngrouped.outer, ungrouped isSafe⟩

theorem confined_push {item : Piece} (ungrouped : safe → item.Ungrouped) :
    Confined safe (fun reader => some (reader.push item)) := by
  refine confined_some (fun _ => rfl) ?_ ?_
  -- A frame with none around it takes over the index of the group entered.
  · rintro ⟨frame, _ | _⟩ context <;> rfl
  · intro isSafe reader readerUngrouped
    exact ⟨readerUngrouped.frame.push (ungrouped isSafe),
      readerUngrouped.outer, trivial⟩

theorem confined_branch :
    Confined safe (fun reader =>
      some { reader with frame := reader.frame.branch, mode := .plain }) := by
  refine confined_some (fun _ => rfl) ?_ ?_
  · rintro ⟨frame, _ | _⟩ context <;> rfl
  · intro _ reader ungrouped
    exact ⟨ungrouped.frame.branch, ungrouped.outer, trivial⟩

theorem confined_enter :
    Confined safe (fun reader => some (reader.enter none)) := by
  refine confined_some (fun _ => rfl) (fun _ _ => rfl) ?_
  intro _ reader ungrouped
  exact ⟨⟨rfl, nofun, nofun⟩,
    List.forall_mem_cons.2 ⟨ungrouped.frame, ungrouped.outer⟩, trivial⟩

theorem leave_eq_some {reader next : RegexReader}
    (left : reader.leave = some next) :
    ∃ frame outer, reader.outer = frame :: outer ∧
      reader.frame.close.height ≤ Regex.maxHeight ∧
      next = { reader with
        frame := frame.push reader.frame.close, outer, mode := .plain } := by
  unfold leave at left
  split at left
  · cases left
  · rename_i frame outer equal
    rw [Option.ite_none_right_eq_some, Option.some.injEq] at left
    exact ⟨frame, outer, equal, left.1, left.2.symm⟩

theorem confined_leave : Confined safe leave where
  grows left := by
    rcases leave_eq_some left with ⟨frame, outer, _, _, rfl⟩
    exact Nat.le_refl _
  settles := @fun reader next left _ context => by
    rcases leave_eq_some left with ⟨frame, outer, around, low, rfl⟩
    rcases reader with ⟨inner, _, groups, names, mode⟩
    cases around
    -- The group is left for a frame of its own reader, which may be the last.
    cases outer <;> exact if_pos low
  keeps left same isSafe ungrouped := by
    rcases leave_eq_some left with ⟨frame, outer, around, _, rfl⟩
    have outerUngrouped := ungrouped.outer
    rw [around, List.forall_mem_cons] at outerUngrouped
    exact ⟨outerUngrouped.1.push ungrouped.frame.close, outerUngrouped.2, trivial⟩

theorem take_eq_some {reader taken : RegexReader} {next : Piece → ReaderMode}
    (made : reader.take next = some taken) :
    ∃ body items, reader.frame.items = body :: items ∧
      body.height < Regex.maxHeight ∧
      taken = { reader with
        frame := { reader.frame with items }, mode := next body } := by
  unfold take at made
  split at made
  · cases made
  · rename_i body items equal
    rw [Option.ite_none_right_eq_some, Option.some.injEq] at made
    exact ⟨body, items, equal, made.1, made.2.symm⟩

theorem confined_take {next : Piece → ReaderMode}
    (ungrouped : ∀ piece : Piece, piece.Ungrouped → (next piece).Ungrouped) :
    Confined safe (fun reader => reader.take next) where
  grows made := by
    rcases take_eq_some made with ⟨body, items, _, _, rfl⟩
    exact Nat.le_refl _
  settles := @fun reader taken made _ context => by
    rcases take_eq_some made with ⟨body, items, last, low, rfl⟩
    rcases reader with ⟨⟨index, earlier, _⟩, outer, groups, names, mode⟩
    cases last
    cases outer <;> exact if_pos low
  keeps made same isSafe readerUngrouped := by
    rcases take_eq_some made with ⟨body, items, last, _, rfl⟩
    have itemsUngrouped := readerUngrouped.frame.items
    rw [last, List.forall_mem_cons] at itemsUngrouped
    exact ⟨⟨readerUngrouped.frame.index, readerUngrouped.frame.earlier,
      itemsUngrouped.2⟩, readerUngrouped.outer, ungrouped body itemsUngrouped.1⟩

theorem confined_begin (character : Char) :
    Confined safe (fun reader => reader.begin character) := by
  unfold begin
  split
  · exact confined_turn fun _ => trivial
  · exact confined_leave
  · exact confined_branch
  · exact confined_turn fun _ => trivial
  · exact confined_turn fun _ => trivial
  · exact confined_take fun _ ungrouped => ungrouped
  · exact confined_take fun _ ungrouped => ungrouped
  · exact confined_take fun _ ungrouped => ungrouped
  · exact confined_take fun _ ungrouped => ungrouped
  all_goals exact confined_push fun _ => trivial

theorem confined_capture (character : Char) :
    Confined safe (fun reader => reader.enterCapture.begin character) := by
  apply confined_of_lt
  intro reader next made
  have begins : Confined True (fun reader => reader.begin character) :=
    confined_begin character
  exact begins.grows made

theorem confined_name (read : Text) :
    Confined safe (fun reader =>
      let name := read.reverse
      if isName name && !reader.names.contains name then
        some { reader.enterCapture with names := name :: reader.names }
      else
        none) := by
  apply confined_of_lt
  intro reader next made
  dsimp only at made
  split at made
  · cases made
    exact Nat.lt_succ_self reader.groups
  · cases made

/-- What the reader does in a mode is made of confined operations. -/
theorem confined_step (mode : ReaderMode) (character : Char) :
    Confined mode.Ungrouped
      (fun reader => step { reader with mode } character) := by
  cases mode with
  | plain =>
      exact (confined_turn fun ungrouped => ungrouped).bind
        (confined_begin character)
  | escaped =>
      simp only [step]
      split
      · exact confined_push fun _ => trivial
      · cases CharClass.ofEscape? character with
        | none => exact confined_none
        | some charClass => exact confined_push fun _ => trivial
  | repeated body bounds =>
      have pushed (greedy : Bool) : Confined body.Ungrouped (fun reader =>
          some (reader.pushRepeated body bounds greedy)) :=
        confined_push fun ungrouped => Piece.Ungrouped.repeated ungrouped _
      simp only [step]
      split
      · exact pushed false
      · exact (pushed true).bind (confined_begin character)
  | counting body read =>
      simp only [step]
      split
      · split
        · rename_i item named
          exact confined_push fun _ => Piece.ungrouped_of_named? named
        · cases Bounds.ofText? read.reverse with
          | none => exact confined_none
          | some bounds => exact confined_turn fun ungrouped => ungrouped
      · exact confined_turn fun ungrouped => ungrouped
  | set setReader =>
      simp only [step]
      cases setReader.step character with
      | none => exact confined_none
      | some reading =>
          cases reading with
          | partway next => exact confined_turn fun _ => trivial
          | complete brackets => exact confined_push fun _ => trivial
  | opened =>
      simp only [step]
      split
      · exact confined_turn fun _ => trivial
      · exact confined_capture character
  | special =>
      simp only [step]
      split
      · exact confined_enter
      · exact confined_turn fun _ => trivial
      · exact confined_turn fun _ => trivial
      · exact confined_none
  | named =>
      simp only [step]
      split
      · exact confined_turn fun _ => trivial
      · exact confined_none
  | naming read =>
      simp only [step]
      split
      · exact confined_name read
      · exact confined_turn fun _ => trivial

end Operations

/-- A text is read by reading its parts one after the other. -/
theorem foldlM_step_append {reader next : RegexReader} {text : Text}
    (reads : text.foldlM step reader = some next) (rest : Text) :
    (text ++ rest).foldlM step reader = rest.foldlM step next := by
  rw [List.foldlM_append, reads, Option.bind_eq_bind, Option.bind_some]

theorem foldlM_step_cons {reader next : RegexReader} {character : Char}
    {rest : Text}
    (read : (character :: rest).foldlM step reader = some next) :
    ∃ middle, reader.step character = some middle ∧
      rest.foldlM step middle = some next := by
  rw [List.foldlM_cons] at read
  exact Option.bind_eq_some_iff.1 read

/-- Directly behind an opening parenthesis a capture group begins. -/
theorem step_of_opened {reader : RegexReader} {character : Char}
    (opened : reader.mode = .opened) (different : character ≠ '?') :
    reader.step character = reader.enterCapture.begin character := by
  simp only [step, opened, if_neg different]

theorem groups_le_foldlM {text : Text} {reader next : RegexReader}
    (read : text.foldlM step reader = some next) :
    reader.groups ≤ next.groups := by
  induction text generalizing reader with
  | nil =>
      cases read
      exact Nat.le_refl _
  | cons character rest hypothesis =>
      rcases foldlM_step_cons read with ⟨middle, first, others⟩
      exact Nat.le_trans ((confined_step reader.mode character).grows first)
        (hypothesis others)

/-- A text that opens no capture group is read in a group as it is alone. -/
theorem foldlM_within {text : Text} {reader next : RegexReader}
    (read : text.foldlM step reader = some next)
    (same : next.groups = reader.groups) (context : RegexReader) :
    text.foldlM step (reader.within context) = some (next.within context) := by
  induction text generalizing reader with
  | nil =>
      cases read
      rfl
  | cons character rest hypothesis =>
      rcases foldlM_step_cons read with ⟨middle, first, others⟩
      have confined := confined_step reader.mode character
      have below := confined.grows first
      have above := groups_le_foldlM others
      have settled : (reader.within context).step character =
          some (middle.within context) :=
        confined.settles first (by omega) context
      rw [List.foldlM_cons, settled]
      exact hypothesis others (by omega)

theorem Ungrouped.foldlM {text : Text} {reader next : RegexReader}
    (ungrouped : reader.Ungrouped)
    (read : text.foldlM step reader = some next)
    (same : next.groups = reader.groups) : next.Ungrouped := by
  induction text generalizing reader with
  | nil =>
      cases read
      exact ungrouped
  | cons character rest hypothesis =>
      rcases foldlM_step_cons read with ⟨middle, first, others⟩
      have confined := confined_step reader.mode character
      have below := confined.grows first
      have above := groups_le_foldlM others
      exact hypothesis
        (confined.keeps first (by omega) ungrouped.mode ungrouped) others
        (by omega)

end RegexReader

namespace Regex

/-- The number of capture groups that an expression opens. -/
def captureCount? (expression : Text) : Option Nat :=
  (expression.foldlM RegexReader.step {}).map RegexReader.groups

end Regex

end BayesLex
