import BayesLex.Proofs.Conversation
import BayesLex.Proofs.Diagnostics
import BayesLex.Proofs.Listing

/-!
# The columns of a listing

A reader of a listing cuts a line at its first two runs of spaces
(`Text.columns`).  The fields of a line are filled with spaces, but no space
stands between them otherwise.  The field for the kind is wider than every name,
so a space always follows the name.  The field for the position is filled by
eight characters, such as `1000:100`, and then the name of the kind follows
without a space: the first column holds both (`Row.columns_render`).

A position takes eight characters only from the line or the column of number
1000 on.  Before such a place there are at least 1098 characters
(`Position.length_label_behind_lt`), and a source may well have as many.
-/

namespace BayesLex

namespace Text

/-- What stands before the first run of spaces and what stands behind it. -/
def cutAtSpaces (text : Text) : Text × Text :=
  (text.takeWhile (fun next => next != ' '),
    (text.dropWhile (fun next => next != ' ')).dropWhile (fun next => next == ' '))

/-- What stands before, between and behind the first two runs of spaces. -/
def columns (text : Text) : Text × Text × Text :=
  let (first, others) := cutAtSpaces text
  (first, cutAtSpaces others)

theorem cutAtSpaces_append {word rest : Text} (solid : ' ' ∉ word)
    (count : Nat) (stop : rest.head?.any (fun next => next == ' ') = false) :
    cutAtSpaces (word ++ (spaces (count + 1) ++ rest)) = (word, rest) := by
  have inside : ∀ character ∈ word, (character != ' ') = true := by
    intro character member
    rw [bne_iff_ne]
    rintro rfl
    exact solid member
  have space : ∀ character ∈ spaces (count + 1), (character == ' ') = true :=
    fun character member => beq_iff_eq.2 (List.eq_of_mem_replicate member)
  have ends : (spaces (count + 1) ++ rest).head?.any
      (fun next => next != ' ') = false := rfl
  rw [cutAtSpaces, takeWhile_append_of_stop inside ends,
    dropWhile_append_of_stop inside ends, dropWhile_append_of_stop space stop]

theorem columns_append {word rest : Text} (solid : ' ' ∉ word)
    (count : Nat) (stop : rest.head?.any (fun next => next == ' ') = false) :
    columns (word ++ (spaces (count + 1) ++ rest)) =
      (word, cutAtSpaces rest) := by
  rw [columns, cutAtSpaces_append solid count stop]

end Text

namespace Position

theorem length_label (position : Position) :
    position.label.length = (Text.ofNat position.line).length + 1 +
      (Text.ofNat position.column).length := by
  rw [label, List.length_append, List.length_append, List.length_singleton]

/-- Eight characters are taken by a line and a column of 1100 or more together. -/
theorem length_label_lt {position : Position}
    (small : position.line + position.column < 1100) :
    position.label.length < Listing.positionWidth := by
  have fits (lineDigits columnDigits : Nat) (few : lineDigits + columnDigits = 4)
      (line : position.line < 10 ^ (lineDigits + 1))
      (column : position.column < 10 ^ (columnDigits + 1)) :
      position.label.length < Listing.positionWidth := by
    have lines : (Text.ofNat position.line).length ≤ lineDigits + 1 :=
      (Nat.length_toDigits_le_iff (by decide) (Nat.succ_pos _)).2 line
    have columns : (Text.ofNat position.column).length ≤ columnDigits + 1 :=
      (Nat.length_toDigits_le_iff (by decide) (Nat.succ_pos _)).2 column
    rw [length_label, Listing.positionWidth]
    omega
  have digits : position.line < 10 ^ 2 ∧ position.column < 10 ^ 4 ∨
      position.line < 10 ^ 3 ∧ position.column < 10 ^ 3 ∨
      position.line < 10 ^ 4 ∧ position.column < 10 ^ 2 := by
    omega
  rcases digits with ⟨line, column⟩ | ⟨line, column⟩ | ⟨line, column⟩
  · exact fits 1 3 rfl line column
  · exact fits 2 2 rfl line column
  · exact fits 3 1 rfl line column

/-- Every character passed adds at most one to the line or to the column. -/
theorem line_add_column_behind_le (text : Text) :
    (behind text).line + (behind text).column ≤ text.length + 2 := by
  rcases Text.exists_lastLine text with line | ⟨front, last, rfl, line⟩
  · rw [behind_line line]
    dsimp only
    omega
  · have counted := List.count_le_length (a := '\n') (l := front)
    rw [behind_newline_line front line, List.length_append, List.length_cons]
    dsimp only
    omega

/-- Behind less than 1098 characters a position leaves room in its field. -/
theorem length_label_behind_lt {text : Text} (short : text.length < 1098) :
    (behind text).label.length < Listing.positionWidth := by
  have bound := line_add_column_behind_le text
  exact length_label_lt (by omega)

end Position

namespace Kind

variable (kind : Kind)

theorem length_label_lt : kind.label.length < Listing.kindWidth := by
  cases kind <;> decide

theorem space_not_mem_label : ' ' ∉ kind.label := by
  intro member
  cases kind.label_isAlpha _ member

theorem label_append_stops (rest : Text) :
    (kind.label ++ rest).head?.any (fun next => next == ' ') = false := by
  cases kind <;> rfl

end Kind

namespace Row

variable (row : Row)

/-- The three columns that a reader expects. -/
def fields : Text × Text × Text :=
  (row.position.label, row.kind.label, Quoted.text row.text)

/-- At least one space stands behind the position, and one behind the kind. -/
def IsSpaced : Prop :=
  ∃ left right, row.render false =
    row.position.label ++ (Text.spaces (left + 1) ++ (row.kind.label ++
      (Text.spaces (right + 1) ++ Quoted.text row.text)))

/-- A space always follows the name of a kind, but not always a position. -/
theorem render_false :
    ∃ right, row.render false = row.position.label ++
      (Text.spaces (Listing.positionWidth - row.position.label.length) ++
        (row.kind.label ++ (Text.spaces (right + 1) ++ Quoted.text row.text))) := by
  have room := row.kind.length_label_lt
  refine ⟨Listing.kindWidth - row.kind.label.length - 1, ?_⟩
  rw [Nat.sub_add_cancel (Nat.sub_pos_of_lt room)]
  simp [render, Color.paint, Text.pad]

/-- Spaces stand between the columns where the position leaves room. -/
theorem isSpaced_iff :
    row.IsSpaced ↔ row.position.label.length < Listing.positionWidth := by
  rcases row.render_false with ⟨width, line⟩
  constructor
  · rintro ⟨left, right, spaced⟩
    apply Nat.lt_of_not_le
    intro full
    rw [line, Nat.sub_eq_zero_of_le full] at spaced
    have behind : row.kind.label ++ (Text.spaces (width + 1) ++
        Quoted.text row.text) = Text.spaces (left + 1) ++ _ :=
      List.append_cancel_left spaced
    have stops := row.kind.label_append_stops
      (Text.spaces (width + 1) ++ Quoted.text row.text)
    rw [behind] at stops
    cases stops
  · intro room
    refine ⟨Listing.positionWidth - row.position.label.length - 1, width, ?_⟩
    rw [Nat.sub_add_cancel (Nat.sub_pos_of_lt room)]
    exact line

/--
Where the position leaves room in its field, a reader finds the three columns.
Elsewhere the first column holds the position and the kind, and the others hold
the text.
-/
theorem columns_render :
    Text.columns (row.render false) =
      if row.position.label.length < Listing.positionWidth then
        row.fields
      else
        (row.position.label ++ row.kind.label,
          Text.cutAtSpaces (Quoted.text row.text)) := by
  rcases row.render_false with ⟨width, line⟩
  have position : ' ' ∉ row.position.label := by
    intro member
    cases Position.sort_of_mem_label member
  have quoted : (Quoted.text row.text).head?.any
      (fun next => next == ' ') = false := rfl
  split
  · rename_i room
    rw [line, ← Nat.sub_add_cancel (Nat.sub_pos_of_lt room),
      Text.columns_append position _ (row.kind.label_append_stops _),
      Text.cutAtSpaces_append row.kind.space_not_mem_label _ quoted]
    rfl
  · rename_i full
    have both : ' ' ∉ row.position.label ++ row.kind.label := by
      rw [List.mem_append, not_or]
      exact ⟨position, row.kind.space_not_mem_label⟩
    rw [line, Nat.sub_eq_zero_of_le (Nat.le_of_not_lt full)]
    change Text.columns (row.position.label ++ (row.kind.label ++ _)) = _
    rw [← List.append_assoc, Text.columns_append both _ quoted]

theorem columns_render_eq_fields_iff :
    Text.columns (row.render false) = row.fields ↔
      row.position.label.length < Listing.positionWidth := by
  rw [row.columns_render]
  constructor
  · intro same
    apply Nat.lt_of_not_le
    intro full
    rw [if_neg (Nat.not_lt.2 full)] at same
    have names := congrArg (fun columns => columns.1.length) same
    have solid : 0 < row.kind.label.length := by
      cases row.kind <;> decide
    simp only [fields, List.length_append] at names
    omega
  · intro room
    rw [if_pos room]

end Row

/-- Behind blanks that are left out, the listing shows a lexeme that stands alone. -/
theorem shown_blanks_append {blanks more : Text} (solid : blanks ≠ [])
    (blank : ∀ character ∈ blanks, isBlank character = true)
    (stop : more.head?.any isBlank = false) {lexeme : Lexeme}
    (alone : RuleTable.standard.lexemes more = [lexeme])
    (visible : lexeme.kind.isTrivia = false) :
    Listing.shown false (tokenize (blanks ++ more)) =
      [{ lexeme with start := Text.size blanks }] := by
  have lexemes := RuleTable.lexemes_blanks solid blank stop
  rw [Listing.shown, tokens_tokenize, lexemes, alone, Token.layout_cons,
    Token.layout_cons, Token.layout_nil, Nat.zero_add,
    List.filter_cons_of_neg (by simp [Kind.isTrivia]), List.filter_cons_of_pos]
  · rfl
  · rw [visible]
    rfl

/-- Every line but the first one and every column may hold a token that is shown. -/
theorem exists_shown_at (line column : Nat) (path : Option String) :
    let source := List.replicate (line + 1) '\n' ++
      List.replicate column ' ' ++ ['x']
    ∃ token, Listing.shown false (tokenize source) = [token] ∧
      Row.of (SourceFile.of source path) token =
        { kind := .identifier, text := ['x']
          position := { line := line + 2, column := column + 1 } } := by
  intro source
  let blanks := List.replicate (line + 1) '\n' ++ List.replicate column ' '
  have feeds : blanks = List.replicate line '\n' ++
      '\n' :: List.replicate column ' ' := by
    rw [← List.singleton_append, ← List.append_assoc, ← List.replicate_succ']
  have solid : blanks ≠ [] := by
    rw [feeds]
    exact List.append_ne_nil_of_right_ne_nil _ (List.cons_ne_nil _ _)
  have blank : ∀ character ∈ blanks, isBlank character = true := by
    intro character member
    rcases List.mem_append.1 member with feed | space
    · rw [List.eq_of_mem_replicate feed]
      decide
    · rw [List.eq_of_mem_replicate space]
      decide
  have spaces : '\n' ∉ List.replicate column ' ' := by
    intro member
    cases List.eq_of_mem_replicate member
  have behind := Position.behind_newline_line (List.replicate line '\n') spaces
  rw [← feeds, List.count_replicate_self, List.length_replicate] at behind
  have position := (SourceFile.position_size_append blanks ['x'] path).trans
    behind
  have alone : RuleTable.standard.lexemes ['x'] =
      [{ kind := .identifier, text := ['x'] }] := by
    decide +kernel
  exact ⟨_, shown_blanks_append solid blank (by decide) alone rfl,
    congrArg (Row.mk _) position⟩

/--
Spaces stand between the position, the kind and the text of a token exactly where the
position leaves room in its field, and there a reader who cuts the line at its first
two runs of spaces finds these three.  A source of fewer than 1099 characters has no
other token.
-/
theorem listing_columns (source : Text) (path : Option String) :
    let file := SourceFile.of source path
    (∀ token,
      let row := Row.of file token
      Listing.line false file token = row.render false ++ ['\n'] ∧
        (row.IsSpaced ↔
          row.position.label.length < Listing.positionWidth) ∧
        (Text.columns (row.render false) = row.fields ↔
          row.position.label.length < Listing.positionWidth)) ∧
      (source.length < 1099 → ∀ token ∈ (tokenize source).tokens,
        (file.position token.start).label.length < Listing.positionWidth) := by
  intro file
  constructor
  · intro token row
    exact ⟨Listing.line_eq false file token, row.isSpaced_iff,
      row.columns_render_eq_fields_iff⟩
  · intro short token member
    rcases exists_place_of_mem member with
      ⟨lexeme, before, after, split, start⟩
    have solid := List.length_pos_iff.2
      (RuleTable.standard.lexemes_solid source _ lexeme)
    have position := SourceFile.position_size_append before
      (token.text ++ after) path
    rw [← split, start] at position
    rw [split, List.length_append, List.length_append] at short
    rw [position]
    exact Position.length_label_behind_lt (by omega)

/-- A word in the first line of a short source. -/
theorem listing_columns_short :
    let source := "x".toList
    let file := SourceFile.of source none
    let token : Token :=
      { kind := .identifier, text := "x".toList, start := 0 }
    source.length < 1099 ∧ token ∈ (tokenize source).tokens ∧
      (file.position token.start).label.length < Listing.positionWidth := by
  intro source file token
  have short : source.length < 1099 := by decide
  have member : token ∈ (tokenize source).tokens := by decide +kernel
  exact ⟨short, member, (listing_columns source none).2 short token member⟩

/-- In column 100 of line 1000 a word follows its position without a space. -/
theorem listing_columns_touch :
    let source := List.replicate 999 '\n' ++ List.replicate 99 ' ' ++ ['x']
    let file := SourceFile.of source none
    Listing.render false false file (tokenize source) =
        "1000:100Identifier      \"x\"\n".toList ∧
      ∃ token ∈ Listing.shown false (tokenize source),
        ¬ (Row.of file token).IsSpaced ∧
          Text.columns ((Row.of file token).render false) ≠
            (Row.of file token).fields := by
  intro source file
  rcases exists_shown_at 998 99 none with ⟨token, shown, row⟩
  change Listing.shown false (tokenize source) = [token] at shown
  change Row.of file token = _ at row
  have full : ¬ (Row.of file token).position.label.length <
      Listing.positionWidth := by
    rw [row]
    decide
  refine ⟨?_, token, by rw [shown]; exact List.mem_singleton_self token,
    mt (Row.isSpaced_iff _).1 full,
    mt (Row.columns_render_eq_fields_iff _).1 full⟩
  rw [Listing.render, shown, List.flatMap_singleton, Listing.line_eq, row]
  decide

end BayesLex
