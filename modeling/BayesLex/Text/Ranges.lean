/-!
# Ranges of code points

Sets of code points are kept as ascending lists of ranges with gaps between
them, so that equal sets are equal lists.  The Unicode properties used by the
lexer are given in this form; the sets of regular expressions are built from
them by `insert`, `union` and `complement`.

The code points between U+D7FF and U+E000 belong to no character.  A gap
therefore begins behind U+D7FF with U+E000 and ends before U+E000 with U+D7FF.
-/

namespace BayesLex

/-- Ascending, inclusive ranges of code points with gaps between them. -/
abbrev Ranges := List (Nat × Nat)

namespace Ranges

/-- Whether a code point lies in one of the ranges. -/
def contains (code : Nat) : Ranges → Bool
  | [] => false
  | (first, last) :: rest =>
      if code < first then
        false
      else
        code ≤ last || contains code rest

/--
Add the code points from `first` to `last`.  Ranges that overlap or touch
become one.
-/
def insert (first last : Nat) : Ranges → Ranges
  | [] => [(first, last)]
  | (start, stop) :: rest =>
      if last + 1 < start then
        (first, last) :: (start, stop) :: rest
      else if stop + 1 < first then
        (start, stop) :: insert first last rest
      else
        insert (min first start) (max last stop) rest

/-- The code points in some of the ranges of two lists. -/
def union (left right : Ranges) : Ranges :=
  left.foldr (fun range ranges => insert range.1 range.2 ranges) right

/-- The greatest code point. -/
def maxCode : Nat := 0x10FFFF

/-- The code point of the next character. -/
def next (code : Nat) : Nat :=
  if code = 0xD7FF then 0xE000 else code + 1

/-- The code point of the character before. -/
def previous (code : Nat) : Nat :=
  if code = 0xE000 then 0xD7FF else code - 1

/-- The gaps between the ranges, where the first gap may begin at `start`. -/
def gaps (start : Nat) : Ranges → Ranges
  | [] => if start ≤ maxCode then [(start, maxCode)] else []
  | (first, last) :: rest =>
      if start < first then
        (start, previous first) :: gaps (next last) rest
      else
        gaps (next last) rest

/-- The code points of the characters in none of the ranges. -/
def complement (ranges : Ranges) : Ranges :=
  gaps 0 ranges

end Ranges

end BayesLex
