import BayesLex.Text.Basic

/-!
# Fields of a fixed width

A field cuts a text to a greatest number of characters and then fills it
with spaces up to a least one.  A text that is too long for the field is
left as it is, so a field is never narrower than its content.
-/

namespace BayesLex

/-- The side of a field at which its text stands. -/
inductive Alignment where
  | left
  | right
  | center
  deriving DecidableEq

namespace Text

/-- A number of spaces. -/
def spaces (count : Nat) : Text :=
  List.replicate count ' '

/--
Fill a text with spaces up to `width` characters.  Around a centered text an
odd space goes to the right.
-/
def pad (width : Nat) (alignment : Alignment) (text : Text) : Text :=
  let room := width - text.length
  match alignment with
  | .left => text ++ spaces room
  | .right => spaces room ++ text
  | .center => spaces (room / 2) ++ text ++ spaces (room - room / 2)

/-- The first characters of a text, all of them without a limit. -/
def limit (most : Option Nat) (text : Text) : Text :=
  match most with
  | none => text
  | some count => text.take count

end Text

end BayesLex
