import BayesLex.Regex.Basic

/-!
# Places

A place lies between two characters of a text, at its beginning or at its
end.  Places are counted in characters from the beginning of the text.  An
assertion is decided by a place alone.
-/

namespace BayesLex

/-- A place in a text, and the characters on both sides of it. -/
structure Place where
  /-- The number of characters before the place. -/
  taken : Nat
  before : Option Char
  after : Option Char
  deriving DecidableEq

/-- Whether a side is as a condition on it says. -/
def Side.admits (side : Side) (character : Option Char) : Bool :=
  character.any side.set.contains == side.present

namespace Place

/-- The beginning of a text. -/
def start (text : Text) : Place where
  taken := 0
  before := none
  after := text.head?

/-- The place behind the next character, where `rest` follows. -/
def pass (place : Place) (rest : Text) : Place where
  taken := place.taken + 1
  before := place.after
  after := rest.head?

/-- Whether exactly one of the characters on both sides is a word character. -/
def atBoundary (place : Place) : Bool :=
  place.before.any isWord != place.after.any isWord

/-- Whether an assertion holds at a place. -/
def satisfies (place : Place) : Assertion → Bool
  | .textStart => place.taken == 0
  | .textEnd => place.after.isNone
  | .wordBoundary => place.atBoundary
  | .noWordBoundary => !place.atBoundary
  | .beside pairs =>
      pairs.any fun (before, after) =>
        before.admits place.before && after.admits place.after

end Place

end BayesLex
