import BayesLex.Proofs.Position

/-!
# Offsets as lines and columns

A source file finds for every offset, however large, a position on one of its
lines: the offset is compared with where the lines start, and the first of them
starts at the beginning.  At a place of the source the position tells how many
line feeds lie before it and how many characters behind the last of them.

The main statement is that this translation loses nothing.  It is strictly
monotone on the places of a source, so different places have different
positions.
-/

namespace BayesLex

/--
The line that is located is one of those that are searched, as many lines on as
its number says, and it starts no farther than the offset.
-/
theorem Line.getElem?_locateFrom {offset : Nat} (number : Nat) (line : Line)
    (starts : line.start ≤ offset) (others : List Line) :
    ∃ passed,
      (locateFrom offset number line others).1 = number + passed ∧
      (line :: others)[passed]? =
        some (locateFrom offset number line others).2 ∧
      (locateFrom offset number line others).2.start ≤ offset := by
  induction others generalizing number line with
  | nil => exact ⟨0, rfl, rfl, starts⟩
  | cons next others hypothesis =>
      rw [locateFrom]
      split
      · rename_i startsToo
        rcases hypothesis (number + 1) next startsToo with
          ⟨passed, counted, found, before⟩
        exact ⟨passed + 1, by rw [counted]; omega, found, before⟩
      · exact ⟨0, rfl, rfl, starts⟩

namespace SourceFile

/-- The position of an offset lies on a line that starts no farther. -/
theorem exists_line_position (source : Text) (path : Option String)
    (offset : Nat) :
    let file := of source path
    1 ≤ (file.position offset).line ∧ ∃ line,
      file.lines[(file.position offset).line - 1]? = some line ∧
      line.start ≤ offset := by
  intro file
  rcases Line.splitFrom_eq_cons 0 [] 0 source with
    ⟨remainder, others, lines, _⟩
  have located : (file.position offset).line =
        (Line.locateFrom offset 1 { start := 0, text := remainder }
          others).1 := by
    change (Line.locateFrom offset 0 _ (Line.splitFrom [] 0 [] 0 source)).1 = _
    rw [lines, Line.locateFrom, if_pos (Nat.zero_le offset)]
    rfl
  rcases Line.getElem?_locateFrom 1 { start := 0, text := remainder }
      (Nat.zero_le offset) others with ⟨passed, counted, found, before⟩
  rw [located, counted, Nat.add_sub_cancel_left]
  refine ⟨Nat.le_add_right 1 passed, _, ?_, before⟩
  rw [← found]
  exact congrArg (fun all => all[passed]?) lines

/-- An offset has the position of the last place up to the end of the source. -/
theorem position_min (source : Text) (path : Option String) (offset : Nat) :
    (of source path).position (min offset (Text.size source)) =
      (of source path).position offset := by
  rcases Nat.le_total offset (Text.size source) with inside | past
  · rw [Nat.min_eq_left inside]
  · rw [Nat.min_eq_right past, position_of_size_le past,
      position_of_size_le (Nat.le_refl _)]

section Places

variable {source : Text} {near far : Nat}

theorem compare_position_of_lt (nearPlace : Text.IsPlace near source)
    (farPlace : Text.IsPlace far source) (farther : near < far)
    (path : Option String) :
    ((of source path).position near).compare
      ((of source path).position far) = .lt := by
  rcases nearPlace with ⟨left, right, rfl, rfl⟩
  rcases farPlace with ⟨left', right', same, rfl⟩
  exact compare_position same farther path

/-- On places the order of positions is the order of offsets. -/
theorem compare_position_iff (nearPlace : Text.IsPlace near source)
    (farPlace : Text.IsPlace far source) (path : Option String) :
    ((of source path).position near).compare
        ((of source path).position far) = .lt ↔
      near < far := by
  constructor
  · intro ascends
    rcases Nat.lt_trichotomy near far with farther | rfl | nearer
    · exact farther
    · exact absurd ascends (Position.compare_self_ne_lt _)
    · have descends := compare_position_of_lt farPlace nearPlace nearer path
      exact absurd (Position.compare_trans ascends descends)
        (Position.compare_self_ne_lt _)
  · intro farther
    exact compare_position_of_lt nearPlace farPlace farther path

/-- Different places have different positions. -/
theorem eq_of_position_eq (nearPlace : Text.IsPlace near source)
    (farPlace : Text.IsPlace far source) {path : Option String}
    (same : (of source path).position near = (of source path).position far) :
    near = far := by
  have ascends := compare_position_iff nearPlace farPlace path
  have descends := compare_position_iff farPlace nearPlace path
  rw [same, iff_false_left (Position.compare_self_ne_lt _)] at ascends
  rw [same, iff_false_left (Position.compare_self_ne_lt _)] at descends
  exact Nat.le_antisymm (Nat.le_of_not_lt descends) (Nat.le_of_not_lt ascends)

end Places

/--
Every offset has a position, on one of the lines of the source and on no line
that starts behind it, and offsets behind the end stand for the end.  The
position of a place counts the line feeds before it and the characters behind
the last of them.  Farther places have greater positions, and so different
places have different ones.
-/
theorem position_translates (source : Text) (path : Option String) :
    let file := of source path
    (∀ offset,
      let position := file.position offset
      let clamped := min offset (Text.size source)
      1 ≤ position.line ∧ position.line ≤ file.lineCount ∧
        (∃ line, file.lines[position.line - 1]? = some line ∧
          line.start ≤ clamped) ∧
        position = file.position clamped) ∧
      (∀ left right, source = left ++ right →
        file.position (Text.size left) =
          { line := 1 + left.count '\n'
            column := 1 + (left.reverse.takeWhile (· != '\n')).length }) ∧
      ∀ near far, Text.IsPlace near source → Text.IsPlace far source →
        (near < far ↔
          (file.position near).compare (file.position far) = .lt) ∧
        (file.position near = file.position far → near = far) := by
  intro file
  refine ⟨?_, ?_, ?_⟩
  · intro offset position clamped
    have same : file.position clamped = position := position_min _ path offset
    rcases exists_line_position source path clamped with
      ⟨counted, line, found, before⟩
    change 1 ≤ (file.position clamped).line at counted
    change file.lines[(file.position clamped).line - 1]? = some line at found
    rw [same] at counted found
    have bound := (List.getElem?_eq_some_iff.1 found).1
    refine ⟨counted, ?_, ⟨line, found, before⟩, same.symm⟩
    rw [lineCount]
    omega
  · rintro left right rfl
    rw [position_size_append, Position.behind, Nat.add_comm 1, Nat.add_comm 1]
  · intro near far nearPlace farPlace
    exact ⟨(compare_position_iff nearPlace farPlace path).symm,
      eq_of_position_eq nearPlace farPlace⟩

/-- Around an empty line, behind a character of two bytes, and far too far on. -/
theorem position_translates_accented :
    let source := "é\n\nxy".toList
    let file := SourceFile.of source none
    source = "é\n".toList ++ "\nxy".toList ∧
      file.position 3 = { line := 2, column := 1 } ∧
      Text.IsPlace 2 source ∧ Text.IsPlace 3 source ∧
      (file.position 2).compare (file.position 3) = .lt ∧
      file.position 100 = file.position 6 ∧
      file.position 6 = { line := 3, column := 3 } := by
  intro source file
  rcases position_translates source none with ⟨clamped, counted, ordered⟩
  have before : Text.IsPlace 2 source :=
    Text.isPlace_size_append "é".toList "\n\nxy".toList
  have behind : Text.IsPlace 3 source :=
    Text.isPlace_size_append "é\n".toList "\nxy".toList
  exact ⟨rfl, counted "é\n".toList "\nxy".toList rfl, before, behind,
    (ordered 2 3 before behind).1.1 (by decide), (clamped 100).2.2.2,
    counted source [] rfl⟩

end SourceFile

end BayesLex
