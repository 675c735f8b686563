import BayesLex.Regex.Combinators
import BayesLex.Regex.Limits
import BayesLex.Regex.SetReader
import BayesLex.Text.Letter
import BayesLex.Text.Number

/-!
# Reading regular expressions

An expression is read one character at a time.  The reader keeps the items
of the current branch, the branches and groups around it, and a mode that
says what the next character may continue.  Since every step depends on the
state and one character only, reading a text is reading its parts one after
the other.

Look-around and back references are no part of the syntax.  Flags as in `(?x)`
and `(?i:a)`, characters told by their numbers (`\x41`) or by a property (`\pL`),
sets in sets and the operators on sets are a part of it that is not read: an
expression in which one of them stands is refused here, though it may be valid.
Its meaning is a `Regex` all the same, with the sets and the assertions spelled
out, and a rule can be made of that by `Rule.patternBy`.

Every part that has been read has a height: how many sets, repetitions,
groups, sequences and alternatives stand in each other there.
-/

namespace BayesLex

/-- The assertion that a backslash and a character stand for. -/
def Assertion.ofEscape? : Char → Option Assertion
  | 'A' => some .textStart
  | 'z' => some .textEnd
  | 'b' => some .wordBoundary
  | 'B' => some .noWordBoundary
  | '<' => some .wordStart
  | '>' => some .wordEnd
  | _ => none

/-- The assertion that a name in braces behind `\b` stands for. -/
def Assertion.ofName? (name : Text) : Option Assertion :=
  [("start".toList, wordStart), ("end".toList, wordEnd),
    ("start-half".toList, noWordBefore),
    ("end-half".toList, noWordBehind)].lookup name

/-- The bounds of a counted repetition, between its braces. -/
structure Bounds where
  least : Nat
  most : Option Nat
  deriving DecidableEq

namespace Bounds

/-- A number with blanks around it. -/
def number? (text : Text) : Option Nat :=
  let digits := ((text.dropWhile isBlank).reverse.dropWhile isBlank).reverse
  if digits.isEmpty || !digits.all Char.isDigit then
    none
  else
    let value := Nat.ofDigitChars 10 digits 0
    if value < 0x100000000 then some value else none

/-- Read `n`, `n,` or `n,m`. -/
def ofText? (text : Text) : Option Bounds :=
  let first := text.takeWhile (· ≠ ',')
  match text.dropWhile (· ≠ ',') with
  | [] => (number? first).map (fun count => { least := count, most := some count })
  | [_] => (number? first).map (fun count => { least := count, most := none })
  | _ :: second =>
      (number? first).bind fun least =>
        (number? second).bind fun most =>
          if least ≤ most then some { least, most := some most } else none

end Bounds

/-- A part of an expression. -/
structure Piece where
  regex : Regex
  height : Nat
  deriving DecidableEq

namespace Piece

/-- A part in which no other part stands. -/
def leaf (regex : Regex) : Piece where
  regex
  height := 0

/-- A set between brackets, in which a list of several classes stands. -/
def ofBrackets (brackets : Brackets) : Piece where
  regex := .one brackets.set
  height := if brackets.classes.length < 2 then 1 else 2

/-- The least height above some parts. -/
def heightAbove (pieces : List Piece) : Nat :=
  pieces.foldl (fun height piece => max height piece.height) 0 + 1

/-- What a name in braces makes of a part: of `\b` one side of a word. -/
def named? (piece : Piece) (name : Text) : Option Piece :=
  if piece = leaf (.assertion .wordBoundary) then
    (Assertion.ofName? name).map (fun assertion => leaf (.assertion assertion))
  else
    none

/-- Several parts joined to one. -/
def join (combine : List Regex → Regex) : List Piece → Piece
  | [piece] => piece
  | pieces =>
      { regex := combine (pieces.map regex)
        height := heightAbove pieces }

/-- Parts one behind the other. -/
def sequence : List Piece → Piece
  | [] => leaf .empty
  | pieces => join Regex.sequence pieces

/-- A part repeated. -/
def repeated (body : Piece) (repetition : Repetition) : Piece where
  regex := body.regex.repeated repetition
  height := body.height + 1

/-- A part in a group. -/
def group (index : Option Nat) (body : Piece) : Piece where
  regex :=
    match index with
    | none => body.regex
    | some index => .group index body.regex
  height := body.height + 1

end Piece

/-- One group as far as it has been read. -/
structure Frame where
  /-- The number of a capture group. -/
  index : Option Nat := none
  /-- The branches before the current one, last first. -/
  earlier : List Piece := []
  /-- The parts of the current branch, last first. -/
  items : List Piece := []
  deriving DecidableEq

namespace Frame

/-- Add a part to the current branch. -/
def push (frame : Frame) (item : Piece) : Frame :=
  { frame with items := item :: frame.items }

/-- The branches up to the current one, last first. -/
def branches (frame : Frame) : List Piece :=
  Piece.sequence frame.items.reverse :: frame.earlier

/-- Begin another branch. -/
def branch (frame : Frame) : Frame :=
  { frame with earlier := frame.branches, items := [] }

/-- What stands in the group. -/
def body (frame : Frame) : Piece :=
  Piece.join Regex.alternatives frame.branches.reverse

/-- The whole group. -/
def close (frame : Frame) : Piece :=
  frame.body.group frame.index

end Frame

/-- What the next character of an expression may continue. -/
inductive ReaderMode where
  | plain
  /-- Behind a backslash. -/
  | escaped
  /-- Behind a repetition, which a question mark makes reluctant. -/
  | repeated (body : Piece) (bounds : Bounds)
  /-- Inside the braces behind a part, last character first. -/
  | counting (body : Piece) (read : Text)
  /-- Inside a set. -/
  | set (reader : SetReader)
  /-- Behind an opening parenthesis. -/
  | opened
  /-- Behind an opening parenthesis and a question mark. -/
  | special
  /-- The same with a `P`, which needs a name. -/
  | named
  /-- Inside the name of a group, last character first. -/
  | naming (read : Text)
  deriving DecidableEq

/-- An expression as far as it has been read. -/
structure RegexReader where
  frame : Frame := {}
  /-- The groups around the current one, innermost first. -/
  outer : List Frame := []
  /-- The number of capture groups opened. -/
  groups : Nat := 0
  names : List Text := []
  mode : ReaderMode := .plain
  deriving DecidableEq

namespace RegexReader

/-- Add a part to the current branch. -/
def push (reader : RegexReader) (item : Piece) : RegexReader :=
  { reader with frame := reader.frame.push item, mode := .plain }

/-- Enter a group. -/
def enter (reader : RegexReader) (index : Option Nat) : RegexReader :=
  { reader with
    frame := { index }
    outer := reader.frame :: reader.outer
    mode := .plain }

/-- Enter the next capture group. -/
def enterCapture (reader : RegexReader) : RegexReader :=
  { reader.enter (some (reader.groups + 1)) with groups := reader.groups + 1 }

/-- Leave the current group. -/
def leave (reader : RegexReader) : Option RegexReader :=
  match reader.outer with
  | [] => none
  | frame :: outer =>
      let group := reader.frame.close
      if group.height ≤ Regex.maxHeight then
        some { reader with frame := frame.push group, outer, mode := .plain }
      else
        none

/-- Take the last part of the current branch for a repetition. -/
def take (reader : RegexReader) (next : Piece → ReaderMode) : Option RegexReader :=
  match reader.frame.items with
  | [] => none
  | body :: items =>
      if body.height < Regex.maxHeight then
        some
          { reader with
            frame := { reader.frame with items }
            mode := next body }
      else
        none

/-- A repetition is complete. -/
def pushRepeated (reader : RegexReader) (body : Piece) (bounds : Bounds)
    (greedy : Bool) : RegexReader :=
  reader.push
    (body.repeated { least := bounds.least, most := bounds.most, greedy })

/-- Read a character that continues nothing. -/
def begin (reader : RegexReader) (character : Char) : Option RegexReader :=
  match character with
  | '(' => some { reader with mode := .opened }
  | ')' => reader.leave
  | '|' => some { reader with frame := reader.frame.branch, mode := .plain }
  | '[' => some { reader with mode := .set {} }
  | '\\' => some { reader with mode := .escaped }
  | '*' => reader.take (.repeated · { least := 0, most := none })
  | '+' => reader.take (.repeated · { least := 1, most := none })
  | '?' => reader.take (.repeated · { least := 0, most := some 1 })
  | '{' => reader.take (.counting · [])
  | '.' => some (reader.push (.leaf (.one .anyInLine)))
  | '^' => some (reader.push (.leaf (.assertion .textStart)))
  | '$' => some (reader.push (.leaf (.assertion .textEnd)))
  | _ => some (reader.push (.leaf (.one (.single character))))

/-- Whether a text may name a capture group. -/
def isName : Text → Bool
  | [] => false
  | first :: rest =>
      (isLetter first || first = '_') &&
        rest.all fun character =>
          isLetter character || isNumeric character ||
            "_.[]".toList.contains character

/-- Read one character of an expression. -/
def step (reader : RegexReader) (character : Char) : Option RegexReader :=
  match reader.mode with
  | .plain => reader.begin character
  | .escaped =>
      match Assertion.ofEscape? character with
      | some assertion => some (reader.push (.leaf (.assertion assertion)))
      | none =>
          (CharClass.ofEscape? character).map
            (fun charClass => reader.push (.leaf (.one (.ofClass charClass))))
  | .repeated body bounds =>
      if character = '?' then
        some (reader.pushRepeated body bounds false)
      else
        (reader.pushRepeated body bounds true).begin character
  | .counting body read =>
      if character = '}' then
        match body.named? read.reverse with
        | some item => some (reader.push item)
        | none =>
            (Bounds.ofText? read.reverse).map
              (fun bounds => { reader with mode := .repeated body bounds })
      else
        some { reader with mode := .counting body (character :: read) }
  | .set setReader =>
      (setReader.step character).map fun
        | .partway next => { reader with mode := .set next }
        | .complete brackets => reader.push (.ofBrackets brackets)
  | .opened =>
      if character = '?' then
        some { reader with mode := .special }
      else
        reader.enterCapture.begin character
  | .special =>
      match character with
      | ':' => some (reader.enter none)
      | 'P' => some { reader with mode := .named }
      | '<' => some { reader with mode := .naming [] }
      | _ => none
  | .named =>
      if character = '<' then some { reader with mode := .naming [] } else none
  | .naming read =>
      if character = '>' then
        let name := read.reverse
        if isName name && !reader.names.contains name then
          some { reader.enterCapture with names := name :: reader.names }
        else
          none
      else
        some { reader with mode := .naming (character :: read) }

/-- What has been read, if everything that was opened is closed. -/
def finish (reader : RegexReader) : Option Piece :=
  if reader.outer.isEmpty then
    match reader.mode with
    | .plain => some reader.frame.body
    | .repeated body bounds =>
        some (reader.pushRepeated body bounds true).frame.body
    | _ => none
  else
    none

end RegexReader

namespace Regex

/-- Read an expression, which must keep the limits of height and weight. -/
def parse? (text : Text) : Option Regex :=
  match (text.foldlM RegexReader.step {}).bind RegexReader.finish with
  | none => none
  | some piece =>
      if piece.height ≤ maxHeight && piece.regex.fits then
        some piece.regex
      else
        none

end Regex

end BayesLex
