import BayesLex.Span

/-!
# Lines and columns

People find a place in a source by its line and its column, both counted from
one.  A line ends with a line feed, and a column counts characters.  Offsets
behind the end of the source stand for its end; an offset inside a character
gets the column that counts bytes instead.
-/

namespace BayesLex

/-- A line and a column, both counted from one. -/
structure Position where
  line : Nat
  column : Nat
  deriving DecidableEq

namespace Position

/-- Positions are ordered by their line and then by their column. -/
def compare (left right : Position) : Ordering :=
  (Ord.compare left.line right.line).then
    (Ord.compare left.column right.column)

/-- A position as `line:column`. -/
def label (position : Position) : Text :=
  Text.ofNat position.line ++ [':'] ++ Text.ofNat position.column

/-- The fields of a position. -/
def describe (position : Position) : Text :=
  "\x7b line: ".toList ++ Text.ofNat position.line ++ ", column: ".toList ++
    Text.ofNat position.column ++ " \x7d".toList

end Position

/-- A line without its line feed, and the offset at which it starts. -/
structure Line where
  start : Nat
  text : Text
  deriving DecidableEq

namespace Line

/--
The column of the place `distance` bytes into a line, of which `bytes` bytes
lie in `text`, behind `passed` characters.
-/
def columnFrom (distance : Nat) (bytes passed : Nat) : Text → Nat
  | [] => passed + 1
  | character :: rest =>
      if bytes = 0 then
        passed + 1
      else if character.utf8Size ≤ bytes then
        columnFrom distance (bytes - character.utf8Size) (passed + 1) rest
      else
        distance + 1

/-- The column of an offset in a line. -/
def column (line : Line) (offset : Nat) : Nat :=
  columnFrom (offset - line.start) (offset - line.start) 0 line.text

/--
Split a text into lines behind the lines `complete`, latest first.  The
current line starts at `start`, and `read` holds its characters before the
offset, last first.
-/
def splitFrom (complete : List Line) (start : Nat) (read : Text)
    (offset : Nat) : Text → List Line
  | [] => ({ start, text := read.reverse } :: complete).reverse
  | character :: rest =>
      if character = '\n' then
        splitFrom ({ start, text := read.reverse } :: complete) (offset + 1) []
          (offset + 1) rest
      else
        splitFrom complete start (character :: read)
          (offset + character.utf8Size) rest

/-- The lines of a text: one more than it has line feeds. -/
def split (text : Text) : List Line :=
  splitFrom [] 0 [] 0 text

/--
The last of some lines that starts no farther than an offset, and its number,
where `number` lines up to `line` come before.
-/
def locateFrom (offset : Nat) : Nat → Line → List Line → Nat × Line
  | number, line, [] => (number, line)
  | number, line, next :: rest =>
      if next.start ≤ offset then
        locateFrom offset (number + 1) next rest
      else
        (number, line)

end Line

/-- A source text with its lines, and where it was found. -/
structure SourceFile where
  text : Text
  path : Option String
  lines : List Line

namespace SourceFile

/-- A source text that was found at a path. -/
def of (text : Text) (path : Option String) : SourceFile where
  text
  path
  lines := Line.split text

/-- The number of lines. -/
def lineCount (file : SourceFile) : Nat :=
  file.lines.length

/-- The position of a byte offset. -/
def position (file : SourceFile) (offset : Nat) : Position :=
  let (number, line) :=
    Line.locateFrom offset 0 { start := 0, text := [] } file.lines
  { line := number, column := line.column offset }

/-- The positions of both ends of a span. -/
def positions (file : SourceFile) (span : Span) : Position × Position :=
  (file.position span.start, file.position span.stop)

/-- The path, or a word for a text that has none. -/
def title (file : SourceFile) : Text :=
  match file.path with
  | some path => path.toList
  | none => "<input>".toList

end SourceFile

end BayesLex
