import BayesLex.Text.Basic
import BayesLex.Text.Blank
import BayesLex.Text.Digit
import BayesLex.Text.Word

/-!
# Regular expressions

The syntax of the expressions from which pattern rules are made.  Sequences
and alternatives are binary.  Capture groups are numbered from one by their
opening parenthesis.

A set of characters is kept as the ranges of its code points, so that sets
with the same members are equal however they have been written.  Every
assertion is decided by what stands on both sides of a place: the beginnings
and the ends of words, and those of lines as well, are pairs of such sides.
-/

namespace BayesLex

/-- A class of characters, as it is written in an expression. -/
inductive CharClass where
  /-- The characters from `first` to `last`. -/
  | range (first last : Char)
  | word
  | notWord
  | decimal
  | notDecimal
  | blank
  | notBlank
  deriving DecidableEq

namespace CharClass

/-- The class of one character. -/
def single (character : Char) : CharClass :=
  range character character

/-- The code points of the characters in a class. -/
def ranges : CharClass → Ranges
  | range first last => [(first.toNat, last.toNat)]
  | word => wordRanges
  | notWord => wordRanges.complement
  | decimal => decimalRanges
  | notDecimal => decimalRanges.complement
  | blank => blankRanges
  | notBlank => blankRanges.complement

end CharClass

/-- A set of characters. -/
structure CharSet where
  ranges : Ranges
  deriving DecidableEq

namespace CharSet

/-- Whether a character belongs to a set. -/
def contains (set : CharSet) (character : Char) : Bool :=
  set.ranges.contains character.toNat

/-- The set of one class. -/
def ofClass (charClass : CharClass) : CharSet where
  ranges := charClass.ranges

/-- The set of one character. -/
def single (character : Char) : CharSet :=
  ofClass (CharClass.single character)

/-- The characters in some of the sets. -/
def union (sets : List CharSet) : CharSet where
  ranges := sets.foldl (fun ranges set => ranges.union set.ranges) []

/-- The characters that are not in the set. -/
def complement (set : CharSet) : CharSet where
  ranges := set.ranges.complement

/-- Every character but the end of a line. -/
def anyInLine : CharSet :=
  (single '\n').complement

/-- The code point of the only member. -/
def only? (set : CharSet) : Option Nat :=
  match set.ranges with
  | [(first, last)] => if first = last then some first else none
  | _ => none

@[simp]
theorem contains_single (member character : Char) :
    (single member).contains character = (character == member) := by
  rw [Bool.eq_iff_iff]
  simp only [single, ofClass, CharClass.single, CharClass.ranges, contains,
    Ranges.contains, beq_iff_eq]
  constructor
  · intro found
    split at found
    · contradiction
    · simp only [Bool.or_false, decide_eq_true_eq] at found
      exact Char.ext (UInt32.toNat_inj.1 (by simp only [Char.toNat] at *; omega))
  · rintro rfl
    simp

end CharSet

/-- Whether a character of a set stands on one side of a place. -/
structure Side where
  set : CharSet
  present : Bool
  deriving DecidableEq

/-- A condition on a place in the text. -/
inductive Assertion where
  | textStart
  | textEnd
  /-- One of the characters on both sides is a word character. -/
  | wordBoundary
  | noWordBoundary
  /-- Both sides are as one of the pairs says, the side before the place first. -/
  | beside (pairs : List (Side × Side))
  deriving DecidableEq

namespace Side

/-- A word character stands there. -/
def word : Side where
  set := .ofClass .word
  present := true

/-- No word character stands there, but another one or nothing. -/
def noWord : Side where
  set := .ofClass .word
  present := false

end Side

namespace Assertion

/-- A word character stands behind the place, and none before it. -/
def wordStart : Assertion :=
  beside [(.noWord, .word)]

/-- A word character stands before the place, and none behind it. -/
def wordEnd : Assertion :=
  beside [(.word, .noWord)]

/-- No word character stands before the place. -/
def noWordBefore : Assertion :=
  beside [(.noWord, .word), (.noWord, .noWord)]

/-- No word character stands behind the place. -/
def noWordBehind : Assertion :=
  beside [(.word, .noWord), (.noWord, .noWord)]

end Assertion

/-- How often something is repeated, and whether more is preferred to less. -/
structure Repetition where
  least : Nat
  most : Option Nat
  greedy : Bool
  deriving DecidableEq

/-- A regular expression. -/
inductive Regex where
  | empty
  /-- One character of a set. -/
  | one (set : CharSet)
  | assertion (condition : Assertion)
  | group (index : Nat) (body : Regex)
  | seq (left right : Regex)
  | alt (left right : Regex)
  | iterate (body : Regex) (repetition : Repetition)
  deriving DecidableEq

namespace Regex

/-- The greatest number of a capture group. -/
def groupCount : Regex → Nat
  | empty | one _ | assertion _ => 0
  | group index body => max index body.groupCount
  | seq left right | alt left right => max left.groupCount right.groupCount
  | iterate body _ => body.groupCount

/-- Whether an expression never passes a character. -/
def zeroWidth : Regex → Bool
  | empty | assertion _ => true
  | one _ => false
  | group _ body | iterate body _ => body.zeroWidth
  | seq left right | alt left right => left.zeroWidth && right.zeroWidth

/-- Whether an expression may match without passing a character. -/
def nullable : Regex → Bool
  | empty | assertion _ => true
  | one _ => false
  | group _ body => body.nullable
  | seq left right => left.nullable && right.nullable
  | alt left right => left.nullable || right.nullable
  | iterate body repetition => repetition.least == 0 || body.nullable

/-- Whether every match begins with an assertion. -/
def leads (condition : Assertion) : Regex → Bool
  | empty | one _ => false
  | assertion condition' => condition = condition'
  | group _ body => body.leads condition
  | seq left right =>
      left.leads condition || (left.zeroWidth && right.leads condition)
  | alt left right => left.leads condition && right.leads condition
  | iterate body repetition => 0 < repetition.least && body.leads condition

/-- Whether every match ends with an assertion. -/
def trails (condition : Assertion) : Regex → Bool
  | empty | one _ => false
  | assertion condition' => condition = condition'
  | group _ body => body.trails condition
  | seq left right =>
      right.trails condition || (right.zeroWidth && left.trails condition)
  | alt left right => left.trails condition && right.trails condition
  | iterate body repetition => 0 < repetition.least && body.trails condition

/-- The characters that have a meaning of their own in an expression. -/
def metaCharacters : List Char :=
  ['\\', '.', '+', '*', '?', '(', ')', '|', '[', ']', '{', '}', '^', '$', '#',
    '&', '-', '~']

/-- Whether a character has a meaning of its own in an expression. -/
def isMeta (character : Char) : Bool :=
  metaCharacters.contains character

/-- The spelling of an expression for a text itself. -/
def escape (text : Text) : Text :=
  text.flatMap fun character =>
    if isMeta character then ['\\', character] else [character]

end Regex

end BayesLex
