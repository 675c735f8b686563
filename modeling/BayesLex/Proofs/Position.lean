import BayesLex.Position
import BayesLex.Proofs.Text.Lines
import BayesLex.Proofs.Text.Slices

/-!
# Places and their positions

A place of a source lies behind a beginning of it.  `Position.behind` counts the
line feeds of that beginning and the characters behind the last of them, and
this is the position that a source file finds for the place
(`SourceFile.position_size_append`), whichever lines it has been split into.

Farther places have greater positions (`Position.compare_behind`), and the
character that follows a place is found again by its line and its column
(`Position.characterIn?_behind`).
-/

namespace BayesLex

namespace Position

/-- The position of the first character. -/
def first : Position where
  line := 1
  column := 1

/-- The position behind a character. -/
def advance (position : Position) (character : Char) : Position :=
  if character = '\n' then
    { line := position.line + 1, column := 1 }
  else
    { position with column := position.column + 1 }

/-- The position behind a text: its line feeds, and what the last line holds. -/
def behind (text : Text) : Position where
  line := text.count '\n' + 1
  column :=
    (text.reverse.takeWhile fun character => character != '\n').length + 1

theorem behind_concat (text : Text) (character : Char) :
    behind (text ++ [character]) = (behind text).advance character := by
  by_cases newline : character = '\n'
  · subst newline
    simp [behind, advance]
  · simp [behind, advance, newline]

/-- Characters are passed one by one. -/
theorem behind_append (left right : Text) :
    behind (left ++ right) = right.foldl advance (behind left) := by
  induction right generalizing left with
  | nil => rw [List.append_nil, List.foldl_nil]
  | cons character rest hypothesis =>
      rw [← List.singleton_append, ← List.append_assoc, hypothesis,
        behind_concat, List.singleton_append, List.foldl_cons]

theorem foldl_advance (text : Text) :
    text.foldl advance first = behind text :=
  (behind_append [] text).symm

theorem compare_eq_lt_iff (left right : Position) :
    left.compare right = .lt ↔
      left.line < right.line ∨
        left.line = right.line ∧ left.column < right.column := by
  rw [compare, Ordering.then_eq_lt, Nat.compare_eq_lt, Nat.compare_eq_eq,
    Nat.compare_eq_lt]

theorem compare_trans {left middle right : Position}
    (before : left.compare middle = .lt)
    (after : middle.compare right = .lt) :
    left.compare right = .lt := by
  rw [compare_eq_lt_iff] at before after ⊢
  omega

theorem compare_self_ne_lt (position : Position) :
    position.compare position ≠ .lt := by
  rw [ne_eq, compare_eq_lt_iff]
  omega

theorem compare_advance (position : Position) (character : Char) :
    position.compare (position.advance character) = .lt := by
  rw [compare_eq_lt_iff]
  unfold advance
  split
  · exact .inl (Nat.lt_succ_self _)
  · exact .inr ⟨rfl, Nat.lt_succ_self _⟩

theorem compare_foldl_advance (position : Position) {text : Text}
    (solid : text ≠ []) :
    position.compare (text.foldl advance position) = .lt := by
  induction text generalizing position with
  | nil => exact absurd rfl solid
  | cons character rest hypothesis =>
      rw [List.foldl_cons]
      cases rest with
      | nil => exact position.compare_advance character
      | cons next rest =>
          exact compare_trans (position.compare_advance character)
            (hypothesis _ (List.cons_ne_nil next rest))

/-- A place farther on has a greater position. -/
theorem compare_behind (left : Text) {middle : Text} (solid : middle ≠ []) :
    (behind left).compare (behind (left ++ middle)) = .lt := by
  rw [behind_append]
  exact compare_foldl_advance _ solid

/-- On a line the column counts the characters. -/
theorem foldl_advance_line {text : Text} (line : '\n' ∉ text)
    (position : Position) :
    text.foldl advance position =
      { position with column := position.column + text.length } := by
  induction text generalizing position with
  | nil => rfl
  | cons character rest hypothesis =>
      rw [List.mem_cons, not_or] at line
      rw [List.foldl_cons, hypothesis line.2, advance, if_neg (Ne.symm line.1),
        List.length_cons, Nat.add_assoc, Nat.add_comm 1]

theorem behind_line {text : Text} (line : '\n' ∉ text) :
    behind text = { line := 1, column := text.length + 1 } := by
  rw [← foldl_advance, foldl_advance_line line, Nat.add_comm]
  rfl

theorem behind_newline_line (left : Text) {text : Text}
    (line : '\n' ∉ text) :
    behind (left ++ '\n' :: text) =
      { line := left.count '\n' + 2, column := text.length + 1 } := by
  rw [behind_append, List.foldl_cons, foldl_advance_line line, advance,
    if_pos rfl, Nat.add_comm 1]
  rfl

end Position

namespace Line

/-- The lines that are complete do not matter for those that follow. -/
theorem splitFrom_complete (complete : List Line) (start : Nat) (read : Text)
    (offset : Nat) (text : Text) :
    splitFrom complete start read offset text =
      complete.reverse ++ splitFrom [] start read offset text := by
  induction text generalizing complete start read offset with
  | nil => simp [splitFrom]
  | cons character rest hypothesis =>
      unfold splitFrom
      split
      · rw [hypothesis, hypothesis [_]]
        simp
      · exact hypothesis complete _ _ _

/-- The current line goes on, and the next one starts behind its line feed. -/
theorem splitFrom_eq_cons (start : Nat) (read : Text) (offset : Nat)
    (text : Text) :
    ∃ remainder others,
      splitFrom [] start read offset text =
          { start, text := read.reverse ++ remainder } :: others ∧
        ∀ next ∈ others.head?, offset < next.start := by
  induction text generalizing start read offset with
  | nil => exact ⟨[], [], by rw [List.append_nil, splitFrom]; rfl, nofun⟩
  | cons character rest hypothesis =>
      unfold splitFrom
      split
      · rcases hypothesis (offset + 1) [] (offset + 1) with
          ⟨remainder, others, lines, _⟩
        refine ⟨[], { start := offset + 1, text := remainder } :: others,
          ?_, ?_⟩
        · rw [splitFrom_complete, lines, List.append_nil]
          rfl
        · rintro _ ⟨⟩
          exact Nat.lt_succ_self offset
      · rcases hypothesis start (character :: read)
            (offset + character.utf8Size) with
          ⟨remainder, others, lines, behind⟩
        refine ⟨character :: remainder, others, ?_, ?_⟩
        · rw [lines, List.reverse_cons, List.append_assoc,
            List.singleton_append]
        · intro next member
          exact Nat.lt_of_le_of_lt (Nat.le_add_right _ _) (behind next member)

theorem locateFrom_of_lt {offset : Nat} {others : List Line}
    (behind : ∀ next ∈ others.head?, offset < next.start) (number : Nat)
    (line : Line) :
    locateFrom offset number line others = (number, line) := by
  cases others with
  | nil => rfl
  | cons next others =>
      exact if_neg (Nat.not_le.2 (behind next rfl))

theorem columnFrom_size_append (distance passed : Nat) (left right : Text) :
    columnFrom distance (Text.size left) passed (left ++ right) =
      passed + left.length + 1 := by
  induction left generalizing passed with
  | nil =>
      cases right with
      | nil => rfl
      | cons character rest => exact if_pos rfl
  | cons character left hypothesis =>
      have positive := character.utf8Size_pos
      rw [List.cons_append, Text.size_cons, columnFrom, if_neg (by omega),
        if_pos (by omega), Nat.add_sub_cancel_left, hypothesis,
        List.length_cons]
      omega

/-- Behind the end of a text the column counts all of its characters. -/
theorem columnFrom_of_size_le (distance passed : Nat) {text : Text}
    {bytes : Nat} (past : Text.size text ≤ bytes) :
    columnFrom distance bytes passed text = passed + text.length + 1 := by
  induction text generalizing bytes passed with
  | nil => rfl
  | cons character rest hypothesis =>
      have positive := character.utf8Size_pos
      rw [Text.size_cons] at past
      rw [columnFrom, if_neg (by omega), if_pos (by omega),
        hypothesis _ (by omega), List.length_cons]
      omega

/--
Behind a line that has been read in part, the place behind a text is found in
the line, and with the column, to which its characters lead.  Where nothing
follows the text, every offset farther on is found there too.
-/
theorem locateFrom_splitFrom (left right : Text) (number start : Nat)
    (previous : Line) (read : Text) (offset target : Nat)
    (reached : offset = start + Text.size read.reverse)
    (behind : target = offset + Text.size left ∨
      right = [] ∧ offset + Text.size left ≤ target) :
    let found := locateFrom target number previous
      (splitFrom [] start read offset (left ++ right))
    ({ line := found.1, column := found.2.column target } : Position) =
      left.foldl Position.advance
        { line := number + 1, column := read.length + 1 } := by
  induction left generalizing number start previous read offset with
  | nil =>
      rw [Text.size_nil, Nat.add_zero] at behind
      rcases behind with rfl | ⟨rfl, past⟩
      · rcases splitFrom_eq_cons start read target right with
          ⟨remainder, others, lines, behind⟩
        have starts : start ≤ target := by omega
        have distance : target - start = Text.size read.reverse := by omega
        simp only [List.nil_append, lines, locateFrom, if_pos starts,
          locateFrom_of_lt behind, column, distance, columnFrom_size_append,
          List.length_reverse, Nat.zero_add, List.foldl_nil]
      · have starts : start ≤ target := by omega
        have covered : Text.size read.reverse ≤ target - start := by omega
        simp only [List.append_nil, splitFrom, List.reverse_singleton,
          locateFrom, if_pos starts, column, columnFrom_of_size_le _ _ covered,
          List.length_reverse, Nat.zero_add, List.foldl_nil]
  | cons character left hypothesis =>
      rw [Text.size_cons] at behind
      rw [List.cons_append, splitFrom, List.foldl_cons]
      by_cases newline : character = '\n'
      · have single : character.utf8Size = 1 := by rw [newline]; rfl
        have starts : start ≤ target := by omega
        rw [single] at behind
        rw [if_pos newline, splitFrom_complete, List.reverse_singleton,
          List.singleton_append, locateFrom, if_pos starts,
          Position.advance, if_pos newline]
        exact hypothesis (number + 1) (offset + 1) _ [] (offset + 1) rfl
          (behind.imp (fun exactly => by omega) fun past => ⟨past.1, by omega⟩)
      · rw [if_neg newline, Position.advance, if_neg newline]
        apply hypothesis number start previous (character :: read)
        · rw [List.reverse_cons, Text.size_append, Text.size_cons,
            Text.size_nil]
          omega
        · exact behind.imp (fun exactly => by omega) fun past =>
            ⟨past.1, by omega⟩

end Line

namespace SourceFile

/-- The place behind a beginning of a source has the position behind it. -/
theorem position_size_append (left right : Text) (path : Option String) :
    (of (left ++ right) path).position (Text.size left) =
      Position.behind left := by
  have located := Line.locateFrom_splitFrom left right 0 0
    { start := 0, text := [] } [] 0 (Text.size left) rfl
    (.inl (Nat.zero_add _).symm)
  exact located.trans (Position.foldl_advance left)

/-- Offsets behind the end of a source stand for its end. -/
theorem position_of_size_le {source : Text} {offset : Nat}
    (past : Text.size source ≤ offset) (path : Option String) :
    (of source path).position offset = Position.behind source := by
  have located := Line.locateFrom_splitFrom source [] 0 0
    { start := 0, text := [] } [] 0 offset rfl
    (.inr ⟨rfl, by rwa [Nat.zero_add]⟩)
  rw [List.append_nil] at located
  exact located.trans (Position.foldl_advance source)

/-- Of two places of a source the farther one has the greater position. -/
theorem compare_position {left right left' right' : Text}
    (same : left ++ right = left' ++ right')
    (farther : Text.size left < Text.size left') (path : Option String) :
    let file := of (left ++ right) path
    (file.position (Text.size left)).compare
      (file.position (Text.size left')) = .lt := by
  intro file
  rcases Text.append_eq_append_of_size_le same (Nat.le_of_lt farther) with
    ⟨middle, rfl, rfl⟩
  have solid : middle ≠ [] := by
    rintro rfl
    rw [List.append_nil] at farther
    exact Nat.lt_irrefl _ farther
  have later := position_size_append (left ++ middle) right' path
  rw [List.append_assoc] at later
  rw [position_size_append, later]
  exact Position.compare_behind left solid

end SourceFile

namespace Position

/-- The character at a position of a text, whose lines end with line feeds. -/
def characterIn? (text : Text) : Position → Option Char
  | { line := line + 1, column := column + 1 } =>
      (text.splitOn '\n')[line]?.bind fun content => content[column]?
  | _ => none

/-- The character that follows a place is found by its line and its column. -/
theorem characterIn?_behind (left right : Text) {character : Char}
    (other : character ≠ '\n') :
    (behind left).characterIn? (left ++ character :: right) =
      some character := by
  rcases Text.exists_lastLine left with line | ⟨front, last, rfl, line⟩
  · rw [behind_line line]
    exact Text.splitOn_zero_bind line other right
  · rw [behind_newline_line front line, List.append_assoc, List.cons_append]
    change ((front ++ '\n' :: (last ++ character :: right)).splitOn
      '\n')[front.count '\n' + 1]?.bind (fun content => content[last.length]?) =
        some character
    rw [List.splitOn_append_cons_self, ← Text.length_splitOn,
      List.getElem?_append_right (Nat.le_refl _), Nat.sub_self]
    exact Text.splitOn_zero_bind line other right

end Position

end BayesLex
