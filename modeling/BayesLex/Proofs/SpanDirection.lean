import BayesLex.Proofs.Coordinates

/-!
# The direction of a span

The offsets of a span ascend, also where they fall inside of a character.  The
position of such an offset lies on the line of the character, but its column
counts bytes (`SourceFile.position_inside`), while the column of a place counts
characters.

The main statement tells which spans keep their direction as lines and columns.
Lines are never reversed, and columns are only where a span begins inside of a
character and ends at a place of the same line: there bytes are compared with
characters.  So the direction of a span is lost exactly if it begins more bytes
behind the beginning of the line than it ends characters behind it.
-/

namespace BayesLex

namespace Text

/-- What follows the last line feed of a text. -/
def lastLine (text : Text) : Text :=
  (text.reverse.takeWhile fun character => character != '\n').reverse

theorem ne_newline_of_mem_reverse {text : Text} (line : '\n' ∉ text) :
    ∀ character ∈ text.reverse, (character != '\n') = true := by
  intro character member
  rw [bne_iff_ne]
  rintro rfl
  exact line (List.mem_reverse.1 member)

theorem lastLine_of_not_mem {text : Text} (line : '\n' ∉ text) :
    lastLine text = text := by
  rw [lastLine, ← List.append_nil text.reverse,
    List.takeWhile_append_of_pos (ne_newline_of_mem_reverse line),
    List.takeWhile_nil, List.append_nil, List.reverse_reverse]

theorem lastLine_newline (left : Text) {right : Text} (line : '\n' ∉ right) :
    lastLine (left ++ '\n' :: right) = right := by
  rw [lastLine, List.reverse_append, List.reverse_cons, List.append_assoc,
    List.takeWhile_append_of_pos (ne_newline_of_mem_reverse line),
    List.singleton_append, List.takeWhile_cons_of_neg (by simp),
    List.append_nil, List.reverse_reverse]

/-- The last line goes on with what holds no line feed. -/
theorem lastLine_append (left : Text) {right : Text} (line : '\n' ∉ right) :
    lastLine (left ++ right) = lastLine left ++ right := by
  rcases exists_lastLine left with whole | ⟨front, last, rfl, lastIsLine⟩
  · have both : '\n' ∉ left ++ right := by
      rw [List.mem_append]
      exact not_or.2 ⟨whole, line⟩
    rw [lastLine_of_not_mem both, lastLine_of_not_mem whole]
  · have both : '\n' ∉ last ++ right := by
      rw [List.mem_append]
      exact not_or.2 ⟨lastIsLine, line⟩
    rw [List.append_assoc, List.cons_append, lastLine_newline front both,
      lastLine_newline front lastIsLine]

/-- What stands before a line feed does not matter behind it. -/
theorem lastLine_append_cons (left right : Text) :
    lastLine (left ++ '\n' :: right) = lastLine right := by
  rcases exists_lastLine right with line | ⟨front, last, rfl, line⟩
  · rw [lastLine_newline left line, lastLine_of_not_mem line]
  · rw [← List.cons_append, ← List.append_assoc,
      lastLine_newline _ line, lastLine_newline _ line]

theorem length_le_size (text : Text) : text.length ≤ size text := by
  induction text with
  | nil => exact Nat.le_refl 0
  | cons character rest hypothesis =>
      have positive := character.utf8Size_pos
      rw [List.length_cons, size_cons]
      omega

/-- A byte offset that falls inside of the character behind `left`. -/
def FallsBehind (left : Text) (offset : Nat) (text : Text) : Prop :=
  ∃ character right, text = left ++ character :: right ∧
    size left < offset ∧ offset < size left + character.utf8Size

/-- Every offset of a text is a place of it or falls inside of a character. -/
theorem isPlace_or_fallsBehind {text : Text} {offset : Nat}
    (within : offset ≤ size text) :
    IsPlace offset text ∨ ∃ left, FallsBehind left offset text := by
  induction text generalizing offset with
  | nil =>
      left
      rw [size_nil, Nat.le_zero] at within
      exact ⟨[], [], rfl, within.symm⟩
  | cons character rest hypothesis =>
      rw [size_cons] at within
      rcases Nat.lt_or_ge offset character.utf8Size with before | behind
      · rcases Nat.eq_zero_or_pos offset with rfl | positive
        · exact .inl ⟨[], _, rfl, rfl⟩
        · exact .inr ⟨[], character, rest, rfl, positive,
            by rwa [size_nil, Nat.zero_add]⟩
      · have shorter : offset - character.utf8Size ≤ size rest := by omega
        rcases hypothesis shorter with
          ⟨left, right, rfl, sized⟩ | ⟨left, next, right, rfl, after, before⟩
        · refine .inl ⟨character :: left, right, rfl, ?_⟩
          rw [size_cons]
          omega
        · refine .inr ⟨character :: left, next, right, rfl, ?_, ?_⟩
          all_goals
            rw [size_cons]
            omega

/-- Every place up to an offset that falls behind a text lies in that text. -/
theorem FallsBehind.exists_append {left right near : Text} {offset : Nat}
    (falls : FallsBehind left offset (near ++ right))
    (before : size near ≤ offset) : ∃ middle, left = near ++ middle := by
  rcases falls with ⟨character, others, same, _, inside⟩
  rcases Nat.le_total (size near) (size left) with nearer | farther
  · rcases append_eq_append_of_size_le same nearer with ⟨middle, made, _⟩
    exact ⟨middle, made⟩
  · rcases append_eq_append_of_size_le same.symm farther with
      ⟨middle, rfl, behind⟩
    cases middle with
    | nil => exact ⟨[], by simp⟩
    | cons first middle =>
        cases behind
        rw [size_append, size_cons] at before
        omega

/-- An offset that falls inside of a character does so within its text. -/
theorem FallsBehind.lt_size {left text : Text} {offset : Nat}
    (falls : FallsBehind left offset text) : offset < size text := by
  rcases falls with ⟨character, right, rfl, _, inside⟩
  rw [size_append, size_cons]
  omega

end Text

namespace Line

/-- Inside of a character the column counts the bytes. -/
theorem columnFrom_inside (distance passed : Nat) (left right : Text)
    {character : Char} {bytes : Nat} (behind : Text.size left < bytes)
    (inside : bytes < Text.size left + character.utf8Size) :
    columnFrom distance bytes passed (left ++ character :: right) =
      distance + 1 := by
  induction left generalizing passed bytes with
  | nil =>
      rw [Text.size_nil] at behind inside
      rw [List.nil_append, columnFrom, if_neg (by omega), if_neg (by omega)]
  | cons first left hypothesis =>
      rw [Text.size_cons] at behind inside
      rw [List.cons_append, columnFrom, if_neg (by omega), if_pos (by omega)]
      exact hypothesis _ (by omega) (by omega)

/--
Behind a line that has been read in part, an offset inside of a character is
found on the line to which the text before the character leads.
-/
theorem locateFrom_splitFrom_inside (left right : Text) {character : Char}
    (solid : character ≠ '\n') (number start : Nat) (previous : Line)
    (read : Text) (offset target : Nat) (line : '\n' ∉ read)
    (reached : offset = start + Text.size read.reverse)
    (behind : offset + Text.size left ≤ target)
    (inside : target < offset + Text.size left + character.utf8Size) :
    let last := Text.lastLine (read.reverse ++ left)
    ∃ start' remainder,
      start' + Text.size last = offset + Text.size left ∧
        locateFrom target number previous
            (splitFrom [] start read offset (left ++ character :: right)) =
          (number + 1 + left.count '\n',
            { start := start', text := last ++ character :: remainder }) := by
  -- The line that is being read starts at `start`, and holds `read` so far.
  induction left generalizing number start previous read offset with
  | nil =>
      have readIsLine : '\n' ∉ read.reverse ++ [] := by simpa using line
      rcases Line.splitFrom_eq_cons start (character :: read)
          (offset + character.utf8Size) right with
        ⟨remainder, others, lines, farther⟩
      rw [Text.size_nil, Nat.add_zero] at behind inside
      have starts : start ≤ target := by omega
      have before : ∀ next ∈ others.head?, target < next.start :=
        fun next member => Nat.lt_trans inside (farther next member)
      refine ⟨start, remainder, ?_, ?_⟩
      · rw [Text.lastLine_of_not_mem readIsLine, List.append_nil]
        exact reached.symm
      · rw [Text.lastLine_of_not_mem readIsLine, List.nil_append, splitFrom,
          if_neg solid, lines, locateFrom, if_pos starts,
          locateFrom_of_lt before]
        simp
  | cons first left hypothesis =>
      rw [Text.size_cons] at behind inside
      rw [List.cons_append, splitFrom]
      by_cases newline : first = '\n'
      · subst newline
        have single : '\n'.utf8Size = 1 := rfl
        have starts : start ≤ target := by omega
        have counted : number + 1 + ('\n' :: left).count '\n' =
            number + 1 + 1 + left.count '\n' := by
          rw [List.count_cons_self]
          omega
        rcases hypothesis (number + 1) (offset + 1)
            { start, text := read.reverse } [] (offset + 1)
            List.not_mem_nil rfl (by omega) (by omega) with
          ⟨start', remainder, begins, located⟩
        rw [List.reverse_nil, List.nil_append] at begins located
        rw [Text.lastLine_append_cons, if_pos rfl, splitFrom_complete,
          List.reverse_singleton, List.singleton_append, locateFrom,
          if_pos starts, counted, Text.size_cons, single]
        exact ⟨start', remainder, by omega, located⟩
      · have readIsLine : '\n' ∉ first :: read := by
          rw [List.mem_cons, not_or]
          exact ⟨Ne.symm newline, line⟩
        have reachedNext : offset + first.utf8Size =
            start + Text.size (first :: read).reverse := by
          rw [List.reverse_cons, Text.size_append, Text.size_cons,
            Text.size_nil]
          omega
        have counted : (first :: left).count '\n' = left.count '\n' :=
          List.count_cons_of_ne newline
        rcases hypothesis number start previous (first :: read)
            (offset + first.utf8Size) readIsLine reachedNext (by omega)
            (by omega) with ⟨start', remainder, begins, located⟩
        rw [List.reverse_cons, List.append_assoc, List.singleton_append]
          at begins located
        rw [if_neg newline, counted, Text.size_cons]
        exact ⟨start', remainder, by omega, located⟩

end Line

namespace Position

/--
The position of an offset that falls inside of the character behind a text: on
the line of that character, with a column that counts bytes.
-/
def inside (left : Text) (offset : Nat) : Position where
  line := left.count '\n' + 1
  column := Text.size left.lastLine + (offset - Text.size left) + 1

theorem behind_eq (text : Text) :
    behind text =
      { line := text.count '\n' + 1, column := text.lastLine.length + 1 } := by
  rw [behind, Text.lastLine, List.length_reverse]

theorem compare_eq_gt_iff (left right : Position) :
    left.compare right = .gt ↔
      right.line < left.line ∨
        left.line = right.line ∧ right.column < left.column := by
  rw [compare, Ordering.then_eq_gt, Nat.compare_eq_gt, Nat.compare_eq_eq,
    Nat.compare_eq_gt]

/-- Farther on, a position is only less if it is less on the same line. -/
theorem compare_append_eq_gt_iff (left middle : Text) (column column' : Nat) :
    compare { line := left.count '\n' + 1, column }
        { line := (left ++ middle).count '\n' + 1, column := column' } = .gt ↔
      '\n' ∉ middle ∧ column' < column := by
  rw [compare_eq_gt_iff, ← List.count_eq_zero, List.count_append]
  simp only
  omega

end Position

namespace SourceFile

/-- Inside of a character a position is on its line, and counts bytes. -/
theorem position_inside {left source : Text} {offset : Nat}
    (falls : Text.FallsBehind left offset source) (path : Option String) :
    (of source path).position offset = Position.inside left offset := by
  rcases falls with ⟨character, right, rfl, behind, inside⟩
  have solid : character ≠ '\n' := by
    rintro rfl
    have single : '\n'.utf8Size = 1 := rfl
    omega
  rcases Line.locateFrom_splitFrom_inside left right solid 0 0
      { start := 0, text := [] } [] 0 offset List.not_mem_nil rfl (by omega)
      (by omega) with ⟨start, remainder, begins, located⟩
  rw [List.reverse_nil, List.nil_append] at begins located
  have found : Line.locateFrom offset 0 { start := 0, text := [] }
      (of (left ++ character :: right) path).lines = _ := located
  have column : Line.columnFrom (offset - start) (offset - start) 0
      (left.lastLine ++ character :: remainder) = offset - start + 1 :=
    Line.columnFrom_inside _ _ _ _ (by omega) (by omega)
  rw [position, found, Position.inside]
  simp only [Line.column, column]
  congr 1
  · omega
  · omega

/-- A place of a source has the position behind the text before it. -/
theorem position_place (left right : Text) (path : Option String) :
    (of (left ++ right) path).position (Text.size left) =
      { line := left.count '\n' + 1, column := left.lastLine.length + 1 } := by
  rw [position_size_append, Position.behind_eq]

section Directions

variable {source left middle right : Text} {near far : Nat}

/-- A span that begins at a place keeps its direction. -/
theorem compare_place_ne_gt (ordered : Text.size left ≤ far)
    (within : far ≤ Text.size (left ++ right)) (path : Option String) :
    let file := of (left ++ right) path
    (file.position (Text.size left)).compare (file.position far) ≠ .gt := by
  intro file descends
  change Position.compare ((of (left ++ right) path).position _)
    ((of (left ++ right) path).position far) = .gt at descends
  rw [position_place] at descends
  rcases Text.isPlace_or_fallsBehind within with
    ⟨left', right', same, rfl⟩ | ⟨left', falls⟩
  · rcases Text.append_eq_append_of_size_le same ordered with
      ⟨middle, rfl, _⟩
    rw [same, position_place, Position.compare_append_eq_gt_iff] at descends
    rw [Text.lastLine_append left descends.1, List.length_append] at descends
    omega
  · rcases falls.exists_append ordered with ⟨middle, rfl⟩
    rw [position_inside falls, Position.inside,
      Position.compare_append_eq_gt_iff] at descends
    have shorter := Text.length_le_size left.lastLine
    rw [Text.lastLine_append left descends.1, Text.size_append] at descends
    omega

/-- A span with both ends inside of characters keeps its direction. -/
theorem compare_inside_ne_gt {left' : Text}
    (falls : Text.FallsBehind left near source)
    (falls' : Text.FallsBehind left' far source) (ordered : near ≤ far) :
    (Position.inside left near).compare (Position.inside left' far) ≠ .gt := by
  intro descends
  rcases falls with ⟨character, right, rfl, behind, _⟩
  rcases falls'.exists_append (Nat.le_trans (Nat.le_of_lt behind) ordered) with
    ⟨middle, rfl⟩
  rcases falls' with ⟨_, _, _, behind', _⟩
  rw [Position.inside, Position.inside,
    Position.compare_append_eq_gt_iff] at descends
  rw [Text.size_append] at behind'
  rw [Text.lastLine_append left descends.1, Text.size_append,
    Text.size_append] at descends
  omega

/--
A span that begins inside of a character and ends at a place loses its direction
where the place is on the same line, fewer characters behind its beginning.
-/
theorem compare_inside_place_eq_gt_iff (path : Option String) :
    (Position.inside left near).compare
        ((of (left ++ middle ++ right) path).position
          (Text.size (left ++ middle))) = .gt ↔
      '\n' ∉ middle ∧ (left ++ middle).lastLine.length <
        Text.size left.lastLine + (near - Text.size left) := by
  rw [position_place, Position.inside, Position.compare_append_eq_gt_iff,
    Nat.add_lt_add_iff_right]

/-- Which offsets up to the end of a source are not in the order of positions. -/
theorem compare_position_eq_gt_iff (ordered : near ≤ far)
    (within : far ≤ Text.size source) (path : Option String) :
    let file := of source path
    (file.position near).compare (file.position far) = .gt ↔
      ∃ left middle right, source = left ++ middle ++ right ∧
        Text.FallsBehind left near source ∧
        far = Text.size (left ++ middle) ∧ '\n' ∉ middle ∧
        (left ++ middle).lastLine.length <
          Text.size left.lastLine + (near - Text.size left) := by
  intro file
  constructor
  · intro descends
    -- Each end is a place or inside of a character.  Only from inside of a
    -- character to a place are bytes compared with characters, which are fewer.
    rcases Text.isPlace_or_fallsBehind (Nat.le_trans ordered within) with
      ⟨left, right, rfl, rfl⟩ | ⟨left, falls⟩
    · exact absurd descends (compare_place_ne_gt ordered within path)
    · have inside : file.position near = Position.inside left near :=
        position_inside falls path
      rw [inside] at descends
      rcases Text.isPlace_or_fallsBehind within with
        ⟨left', right', rfl, rfl⟩ | ⟨left', falls'⟩
      · rcases falls with ⟨character, others, same, behind, before⟩
        rcases Text.append_eq_append_of_size_le same.symm
            (Nat.le_trans (Nat.le_of_lt behind) ordered) with
          ⟨middle, rfl, _⟩
        exact ⟨left, middle, right', rfl, ⟨_, _, same, behind, before⟩, rfl,
          (compare_inside_place_eq_gt_iff path).1 descends⟩
      · rw [position_inside falls' path] at descends
        exact absurd descends (compare_inside_ne_gt falls falls' ordered)
  · rintro ⟨left, middle, right, rfl, falls, rfl, reversed⟩
    rw [position_inside falls path]
    exact (compare_inside_place_eq_gt_iff path).2 reversed

/-- Lines are in the order of the offsets. -/
theorem line_position_le (ordered : near ≤ far)
    (within : far ≤ Text.size source) (path : Option String) :
    let file := of source path
    (file.position near).line ≤ (file.position far).line := by
  intro file
  by_cases descends :
      (file.position near).compare (file.position far) = .gt
  · rcases (compare_position_eq_gt_iff ordered within path).1 descends with
      ⟨left, middle, right, rfl, falls, rfl, _⟩
    have near : file.position near = Position.inside left near :=
      position_inside falls path
    have far : file.position (Text.size (left ++ middle)) = _ :=
      position_place (left ++ middle) right path
    rw [near, far, Position.inside]
    simp
  · rw [Position.compare_eq_gt_iff, not_or, Nat.not_lt] at descends
    exact descends.1

end Directions

/--
Which spans keep their direction.  The lines of both ends are in order.  The
positions are reversed exactly where the span begins inside of a character and
ends at a place of the same line, and begins more bytes behind the beginning of
the line than it ends characters behind it.
-/
theorem compare_positions_eq_gt_iff (source : Text) (path : Option String)
    (span : Span) :
    let ends := (of source path).positions span
    ends.1.line ≤ ends.2.line ∧
      (ends.1.compare ends.2 = .gt ↔
        ∃ left middle right, source = left ++ middle ++ right ∧
          Text.FallsBehind left span.start source ∧
          min span.stop (Text.size source) = Text.size (left ++ middle) ∧
          '\n' ∉ middle ∧
          (left ++ middle).lastLine.length <
            Text.size left.lastLine + (span.start - Text.size left)) := by
  intro ends
  have within : min span.stop (Text.size source) ≤ Text.size source :=
    Nat.min_le_right _ _
  rcases Nat.lt_or_ge (Text.size source) span.start with past | inside
  · have stopPast : Text.size source ≤ span.stop :=
      Nat.le_trans (Nat.le_of_lt past) span.ordered
    have same : ends.1 = ends.2 :=
      (position_of_size_le (Nat.le_of_lt past) path).trans
        (position_of_size_le stopPast path).symm
    rw [same]
    refine ⟨Nat.le_refl _, ?_, ?_⟩
    · intro descends
      rw [Position.compare_eq_gt_iff] at descends
      omega
    · rintro ⟨left, _, _, _, falls, _⟩
      exact absurd falls.lt_size (Nat.lt_asymm past)
  · have ordered : span.start ≤ min span.stop (Text.size source) :=
      Nat.le_min.2 ⟨span.ordered, inside⟩
    have lines := line_position_le ordered within path
    have reversed := compare_position_eq_gt_iff ordered within path
    simp only [position_min] at lines reversed
    exact ⟨lines, reversed⟩

/-- Inside of a character of three bytes, and at its end. -/
theorem compare_positions_reversed :
    let file := of "漢".toList none
    let ends := file.positions { start := 2, stop := 3 }
    ends.1 = { line := 1, column := 3 } ∧ ends.2 = { line := 1, column := 2 } ∧
      ends.1.compare ends.2 = .gt := by
  decide +kernel

end SourceFile

end BayesLex
