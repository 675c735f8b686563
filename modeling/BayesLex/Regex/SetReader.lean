import BayesLex.Regex.Basic

/-!
# Reading character sets

A set between brackets is read one character at a time.  Leading hyphens
stand for themselves, a closing bracket does so in the first place, and a
hyphen between two characters makes a range.  Sets inside sets are refused, also
the named ones such as `[:alpha:]`, and so are the set operators `&&`, `--` and
`~~`.
-/

namespace BayesLex

/-- Whether a backslash may stand before a character to take it literally. -/
def isEscapable (character : Char) : Bool :=
  character.toNat < 0x80 && !character.isAlphanum &&
    character ≠ '<' && character ≠ '>'

/-- The class that a backslash and a character stand for. -/
def CharClass.ofEscape? : Char → Option CharClass
  | 'd' => some .decimal
  | 'D' => some .notDecimal
  | 's' => some .blank
  | 'S' => some .notBlank
  | 'w' => some .word
  | 'W' => some .notWord
  | 'a' => some (single '\x07')
  | 'f' => some (single '\x0c')
  | 't' => some (single '\t')
  | 'n' => some (single '\n')
  | 'r' => some (single '\r')
  | 'v' => some (single '\x0b')
  | character =>
      if isEscapable character then some (single character) else none

/-- The class of the characters between the members of two classes of one. -/
def CharClass.between? : CharClass → CharClass → Option CharClass
  | range first first', range last last' =>
      if first = first' ∧ last = last' ∧ first.toNat ≤ last.toNat then
        some (range first last)
      else
        none
  | _, _ => none

/-- What the next character of a set may continue. -/
inductive SetMode where
  /-- Directly behind the opening bracket. -/
  | opened
  /-- Before the first class that is not a hyphen. -/
  | leading
  /-- Between two classes. -/
  | ready
  /-- Behind a class that may begin a range; `plain` if it had no backslash. -/
  | item (charClass : CharClass) (plain : Bool)
  /-- Behind a class and a hyphen. -/
  | hyphen (charClass : CharClass)
  /-- Behind a backslash, after the beginning of a range or without one. -/
  | escaped (first : Option CharClass)
  deriving DecidableEq

/-- A set as far as it has been read, with the last class first. -/
structure SetReader where
  negated : Bool := false
  classes : List CharClass := []
  mode : SetMode := .opened
  deriving DecidableEq

/-- What has been read between two brackets. -/
structure Brackets where
  negated : Bool
  classes : List CharClass
  deriving DecidableEq

/-- The characters in some of the classes, or those in none of them. -/
def Brackets.set (brackets : Brackets) : CharSet :=
  let members := CharSet.union (brackets.classes.map CharSet.ofClass)
  if brackets.negated then members.complement else members

/-- A set that is still open or complete. -/
inductive SetReading where
  | partway (reader : SetReader)
  | complete (brackets : Brackets)
  deriving DecidableEq

namespace SetReader

/-- A class is complete. -/
def add (reader : SetReader) (charClass : CharClass) : SetReader :=
  { reader with classes := charClass :: reader.classes, mode := .ready }

/-- The set is complete. -/
def close (reader : SetReader) : SetReading :=
  .complete { negated := reader.negated, classes := reader.classes.reverse }

/-- Read a character that begins a class or ends the set. -/
def begin (reader : SetReader) (character : Char) : Option SetReading :=
  if character = ']' then
    some reader.close
  else if character = '[' then
    none
  else if character = '\\' then
    some (.partway { reader with mode := .escaped none })
  else
    some (.partway { reader with mode := .item (.single character) true })

/-- Read a character before the first class that is not a hyphen. -/
def lead (reader : SetReader) (character : Char) : Option SetReading :=
  if character = '-' then
    some (.partway { reader.add (.single '-') with mode := .leading })
  else if character = ']' && reader.classes.isEmpty then
    some (.partway (reader.add (.single ']')))
  else
    reader.begin character

/-- The end of a range is known. -/
def range (reader : SetReader) (first last : CharClass) : Option SetReading :=
  (CharClass.between? first last).map
    (fun charClass => .partway (reader.add charClass))

/-- Read one character of a set. -/
def step (reader : SetReader) (character : Char) : Option SetReading :=
  match reader.mode with
  | .opened =>
      if character = '^' then
        some (.partway { reader with negated := true, mode := .leading })
      else
        reader.lead character
  | .leading => reader.lead character
  | .ready => reader.begin character
  | .item charClass plain =>
      -- Behind a range a hyphen is a character of the set like any other one,
      -- so `--` is told from a range here as well as behind a hyphen.
      if plain && (character = '-' || character = '&' || character = '~') &&
          charClass = .single character then
        none
      else if character = '-' then
        some (.partway { reader with mode := .hyphen charClass })
      else
        (reader.add charClass).begin character
  | .hyphen charClass =>
      if character = ']' then
        some ((reader.add charClass).add (.single '-')).close
      else if character = '-' then
        none
      else if character = '\\' then
        some (.partway { reader with mode := .escaped (some charClass) })
      else
        reader.range charClass (.single character)
  | .escaped none =>
      (CharClass.ofEscape? character).map
        (fun charClass =>
          .partway { reader with mode := .item charClass false })
  | .escaped (some first) =>
      (CharClass.ofEscape? character).bind (reader.range first)

end SetReader

end BayesLex
