import BayesLex.Listing
import BayesLex.Proofs.Position
import BayesLex.Proofs.Text.Quoted
import BayesLex.Proofs.Tiling

/-!
# Reading a listing

A line of a listing tells the position, the kind and the text of a token, which
are its `Row`.  Where the fields are narrower than their contents, no space
stands between them; yet digits, letters and quotation marks tell them apart,
and a quoted text tells where it ends.  So the rows are read back from a listing
without colors (`Listing.rows_injective`), and from a listing with trivia the
source.

No line feed stands inside a line, also where it is colored.
-/

namespace BayesLex

/-- What a line of a listing tells about a token. -/
structure Row extends Lexeme where
  position : Position
  deriving DecidableEq

/-- The row for a token of a file. -/
def Row.of (file : SourceFile) (token : Token) : Row where
  toLexeme := token.toLexeme
  position := file.position token.start

/-- The rows that a listing shows. -/
def Listing.rows (showTrivia : Bool) (file : SourceFile)
    (stream : TokenStream) : List Row :=
  (shown showTrivia stream).map (Row.of file)

namespace Text

variable {sort : Char → Bool}

/-- A text begins with a character that is neither a space nor of a sort. -/
def StopsField (sort : Char → Bool) (text : Text) : Prop :=
  text.head?.any sort = false ∧ text.head?.any (fun next => next == ' ') = false

theorem stop_spaces_append (count : Nat) {rest : Text}
    (solid : sort ' ' = false) (stop : rest.head?.any sort = false) :
    (spaces count ++ rest).head?.any sort = false := by
  cases count with
  | zero => exact stop
  | succ count => exact solid

/-- Words of one sort, which holds no space, are read back from their fields. -/
theorem pad_append_inj {word other rest more : Text} {width : Nat}
    (solid : sort ' ' = false)
    (inside : ∀ character ∈ word, sort character = true)
    (insideToo : ∀ character ∈ other, sort character = true)
    (stop : StopsField sort rest) (stopToo : StopsField sort more)
    (same : pad width .left word ++ rest = pad width .left other ++ more) :
    word = other ∧ rest = more := by
  simp only [pad, List.append_assoc] at same
  rcases append_inj_of_stop inside insideToo
    (stop_spaces_append _ solid stop.1) (stop_spaces_append _ solid stopToo.1)
    same with ⟨words, behind⟩
  have space : ∀ count, ∀ character ∈ spaces count,
      (character == ' ') = true := by
    intro count character member
    exact beq_iff_eq.2 (List.eq_of_mem_replicate member)
  exact ⟨words, (append_inj_of_stop (space _) (space _) stop.2 stopToo.2
    behind).2⟩

theorem isShown_of_mem_pad {width : Nat} {text : Text}
    (inside : ∀ character ∈ text, isShown character = true) {character : Char}
    (member : character ∈ pad width .left text) :
    isShown character = true := by
  rw [pad, List.mem_append] at member
  rcases member with word | space
  · exact inside character word
  · rw [List.eq_of_mem_replicate space]
    decide

end Text

namespace Position

/-- Digits and a colon are all that a position is written with. -/
theorem sort_of_mem_label {position : Position} {character : Char}
    (member : character ∈ position.label) :
    (character.isDigit || character == ':') = true := by
  rw [label, List.mem_append, List.mem_append, List.mem_singleton] at member
  rcases member with (line | rfl) | column
  · rw [Text.isDigit_of_mem_ofNat line, Bool.true_or]
  · rfl
  · rw [Text.isDigit_of_mem_ofNat column, Bool.true_or]

theorem isShown_of_mem_label {position : Position} {character : Char}
    (member : character ∈ position.label) : isShown character = true := by
  rw [label, List.mem_append, List.mem_append, List.mem_singleton] at member
  rcases member with (line | rfl) | column
  · exact Quoted.isShown_of_mem_toDigits (by decide) (by decide) line
  · decide
  · exact Quoted.isShown_of_mem_toDigits (by decide) (by decide) column

theorem label_injective {left right : Position}
    (same : left.label = right.label) : left = right := by
  simp only [label, List.append_assoc, List.singleton_append] at same
  rcases Text.append_inj_of_stop (fun _ => Text.isDigit_of_mem_ofNat)
    (fun _ => Text.isDigit_of_mem_ofNat) (by rfl) (by rfl) same with
    ⟨lines, behind⟩
  have columns := List.tail_eq_of_cons_eq behind
  cases left
  cases right
  exact mk.injEq .. ▸ ⟨Text.ofNat_injective lines, Text.ofNat_injective columns⟩

end Position

namespace Kind

theorem label_isAlpha (kind : Kind) :
    ∀ character ∈ kind.label, character.isAlpha = true := by
  apply List.all_eq_true.1
  cases kind <;> rfl

theorem isShown_label (kind : Kind) :
    ∀ character ∈ kind.label, isShown character = true := by
  apply List.all_eq_true.1
  cases kind <;> rfl

/-- The field of a kind begins with a letter. -/
theorem stopsField_label (kind : Kind) (width : Nat) (rest : Text) :
    Text.StopsField (fun next => next.isDigit || next == ':')
      (Text.pad width .left kind.label ++ rest) := by
  cases kind <;> exact ⟨rfl, rfl⟩

theorem label_injective {left right : Kind} (same : left.label = right.label) :
    left = right := by
  have names : left.name = right.name := String.toList_inj.1 same
  have found := ofName?_name left
  rw [names, ofName?_name] at found
  exact (Option.some.inj found).symm

end Kind

theorem Color.newline_not_mem_sequence (color : Color) :
    '\n' ∉ color.sequence := by
  cases color <;> decide

theorem Color.newline_not_mem_restore (color : Color) {text : Text}
    (line : '\n' ∉ text) : '\n' ∉ color.restore text := by
  fun_induction restore color text with
  | case1 => exact line
  | case2 rest hypothesis =>
      simp only [List.mem_cons, not_or] at line
      have later := hypothesis line.2.2.2.2
      simp [reset, color.newline_not_mem_sequence, later]
  | case3 character rest _ hypothesis =>
      rw [List.mem_cons, not_or] at line ⊢
      exact ⟨line.1, hypothesis line.2⟩

theorem Color.newline_not_mem_paint (colors : Bool) (color : Color)
    {text : Text} (line : '\n' ∉ text) : '\n' ∉ color.paint colors text := by
  unfold paint
  split
  · have restored := color.newline_not_mem_restore line
    simp [reset, color.newline_not_mem_sequence, restored]
  · exact line

namespace Row

/-- The line for a row, without its line feed. -/
def render (colors : Bool) (row : Row) : Text :=
  Text.pad Listing.positionWidth .left row.position.label ++
    row.kind.color.paint colors
      (Text.pad Listing.kindWidth .left row.kind.label) ++
    Quoted.text row.text

/-- The field for the position holds nothing but characters that are shown. -/
theorem isShown_positionField (row : Row) :
    ∀ character ∈ Text.pad Listing.positionWidth .left row.position.label,
      isShown character = true :=
  fun _ => Text.isShown_of_mem_pad fun _ => Position.isShown_of_mem_label

/-- The field for the kind holds nothing but characters that are shown. -/
theorem isShown_kindField (row : Row) :
    ∀ character ∈ Text.pad Listing.kindWidth .left row.kind.label,
      isShown character = true :=
  fun _ => Text.isShown_of_mem_pad row.kind.isShown_label

theorem newline_not_mem_render (colors : Bool) (row : Row) :
    '\n' ∉ row.render colors := by
  have hidden : ¬ isShown '\n' = true := by decide
  have kind : '\n' ∉ Text.pad Listing.kindWidth .left row.kind.label :=
    fun member => hidden (row.isShown_kindField _ member)
  rw [render, List.mem_append, List.mem_append, not_or, not_or]
  refine ⟨⟨?_, ?_⟩, Quoted.newline_not_mem_text row.text⟩
  · exact fun member => hidden (row.isShown_positionField _ member)
  · exact Color.newline_not_mem_paint colors row.kind.color kind

/-- A line without colors tells its row, and where it ends. -/
theorem render_append_inj {left right : Row} {more rest : Text}
    (same : left.render false ++ '\n' :: more =
      right.render false ++ '\n' :: rest) :
    left = right ∧ more = rest := by
  simp only [render, Color.paint, Bool.false_eq_true, if_false,
    List.append_assoc] at same
  have quote : ∀ text behind, Text.StopsField Char.isAlpha
      (Quoted.text text ++ '\n' :: behind) := fun _ _ => ⟨rfl, rfl⟩
  rcases Text.pad_append_inj (by rfl) (fun _ => Position.sort_of_mem_label)
    (fun _ => Position.sort_of_mem_label) (left.kind.stopsField_label _ _)
    (right.kind.stopsField_label _ _) same with ⟨positions, fields⟩
  rcases Text.pad_append_inj (by rfl) left.kind.label_isAlpha
    right.kind.label_isAlpha (quote _ _) (quote _ _) fields with
    ⟨kinds, quoted⟩
  rcases Quoted.text_append_inj quoted with ⟨texts, rests⟩
  rcases left with ⟨⟨kind, text⟩, position⟩
  rcases right with ⟨⟨kind', text'⟩, position'⟩
  cases (Kind.label_injective kinds : kind = kind')
  cases (texts : text = text')
  cases (Position.label_injective positions : position = position')
  exact ⟨rfl, List.tail_eq_of_cons_eq rests⟩

end Row

namespace Listing

theorem line_eq (colors : Bool) (file : SourceFile) (token : Token) :
    line colors file token = (Row.of file token).render colors ++ ['\n'] := rfl

theorem render_eq (colors showTrivia : Bool) (file : SourceFile)
    (stream : TokenStream) :
    render colors showTrivia file stream =
      (rows showTrivia file stream).flatMap
        (fun row => row.render colors ++ ['\n']) := by
  rw [rows, List.flatMap_map]
  rfl

/-- Rows of kinds that are no trivia are the same whatever is shown. -/
theorem filter_rows {keep : Kind → Bool}
    (solid : ∀ kind, keep kind = true → kind.isTrivia = false)
    (showTrivia : Bool) (file : SourceFile) (stream : TokenStream) :
    (rows showTrivia file stream).filter (fun row => keep row.kind) =
      (stream.tokens.filter fun token => keep token.kind).map
        (Row.of file) := by
  rw [rows, shown, List.filter_map, List.filter_filter]
  apply congrArg (List.map (Row.of file))
  apply List.filter_congr
  intro token _
  change (keep token.kind && (showTrivia || !token.kind.isTrivia)) =
    keep token.kind
  cases kept : keep token.kind with
  | false => rfl
  | true => rw [solid _ kept, Bool.not_false, Bool.or_true, Bool.and_true]

/-- The rows are read back from a listing without colors. -/
theorem rows_injective {left right : List Row}
    (same : left.flatMap (fun row => row.render false ++ ['\n']) =
      right.flatMap (fun row => row.render false ++ ['\n'])) :
    left = right := by
  have read : ∀ {row other : Row} {more rest : Text},
      row.render false ++ ['\n'] ++ more =
        other.render false ++ ['\n'] ++ rest → row = other ∧ more = rest := by
    intro row other more rest lines
    apply Row.render_append_inj
    simpa using lines
  have stop : ∀ (row : Row) (behind : Text),
      row.render false ++ ['\n'] ++ behind ≠ [] := by
    intro row behind
    simp
  refine (Text.flatMap_append_inj read stop stop ?_).1
  rw [List.append_nil, List.append_nil]
  exact same

/-- A listing has as many line feeds as it shows tokens. -/
theorem count_newline_rows (colors : Bool) (rows : List Row) :
    (rows.flatMap fun row => row.render colors ++ ['\n']).count '\n' =
      rows.length := by
  induction rows with
  | nil => rfl
  | cons row rows hypothesis =>
      have line := List.count_eq_zero.2 (row.newline_not_mem_render colors)
      rw [List.flatMap_cons, List.count_append, List.count_append, line,
        hypothesis, List.length_cons]
      exact Nat.add_comm _ _

end Listing

/-- Rows with trivia tell the source. -/
theorem texts_rows (source : Text) (file : SourceFile) :
    (Listing.rows true file (tokenize source)).flatMap (fun row => row.text) =
      source := by
  have all : Listing.shown true (tokenize source) = (tokenize source).tokens :=
    List.filter_eq_self.2 fun _ _ => rfl
  have texts := reconstruct_scanAll RuleTable.standard source
  rw [Listing.rows, all, List.flatMap_map]
  exact texts

/--
A listing loses nothing.  Sources with one listing without colors have the same
rows, that is lines, columns, kinds and texts of the tokens shown, and they are
equal if trivia is shown.  With colors or without, a listing consists of a line
for each token shown, and the only line feed of that line is its last character.
-/
theorem listing_faithful (showTrivia : Bool) (left right : Text)
    (leftPath rightPath : Option String) :
    let leftFile := SourceFile.of left leftPath
    let rightFile := SourceFile.of right rightPath
    (Listing.render false showTrivia leftFile (tokenize left) =
          Listing.render false showTrivia rightFile (tokenize right) →
        Listing.rows showTrivia leftFile (tokenize left) =
            Listing.rows showTrivia rightFile (tokenize right) ∧
          (showTrivia = true → left = right)) ∧
      ∀ colors,
        (Listing.render colors showTrivia leftFile (tokenize left)).count '\n' =
            (Listing.shown showTrivia (tokenize left)).length ∧
          ∀ token, ∃ content,
            Listing.line colors leftFile token = content ++ ['\n'] ∧
              '\n' ∉ content := by
  intro leftFile rightFile
  constructor
  · intro same
    rw [Listing.render_eq, Listing.render_eq] at same
    have rows := Listing.rows_injective same
    refine ⟨rows, ?_⟩
    rintro rfl
    rw [← texts_rows left leftFile, rows, texts_rows]
  · intro colors
    constructor
    · rw [Listing.render_eq, Listing.count_newline_rows, Listing.rows,
        List.length_map]
    · intro token
      exact ⟨_, Listing.line_eq colors leftFile token,
        Row.newline_not_mem_render colors _⟩

/-- A quotation mark behind a space or a tabulator, which are not shown. -/
theorem listing_faithful_spaced :
    let space := " \"".toList
    let tabulator := "\t\"".toList
    Listing.render false false (SourceFile.of space none) (tokenize space) =
        Listing.render false false (SourceFile.of tabulator none)
          (tokenize tabulator) ∧
      Listing.rows false (SourceFile.of space none) (tokenize space) =
        Listing.rows false (SourceFile.of tabulator none)
          (tokenize tabulator) := by
  intro space tabulator
  have same : Listing.render false false (SourceFile.of space none)
      (tokenize space) = Listing.render false false
        (SourceFile.of tabulator none) (tokenize tabulator) := by
    decide +kernel
  exact ⟨same, ((listing_faithful false space tabulator none none).1 same).1⟩

end BayesLex
