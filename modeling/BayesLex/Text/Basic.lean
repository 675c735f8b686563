/-!
# Text and its byte offsets

A source is a list of characters.  Offsets into it count the bytes of its
UTF-8 encoding, so an offset names a place in the text only when it falls
between two characters.  This module measures texts in bytes and cuts them
at byte offsets; `Text.drop?` is defined exactly at those places.
-/

namespace BayesLex

/-- A text, character by character. -/
abbrev Text := List Char

namespace Text

/-- The number of bytes of a text in UTF-8. -/
def size (text : Text) : Nat :=
  text.foldl (fun total character => total + character.utf8Size) 0

theorem foldl_utf8Size (text : Text) (total : Nat) :
    text.foldl (fun total character => total + character.utf8Size) total =
      total + size text := by
  induction text generalizing total with
  | nil => rfl
  | cons character rest hypothesis =>
      simp only [size, List.foldl_cons]
      rw [hypothesis, hypothesis]
      omega

@[simp]
theorem size_nil : size [] = 0 := rfl

@[simp]
theorem size_cons (character : Char) (rest : Text) :
    size (character :: rest) = character.utf8Size + size rest := by
  simp only [size, List.foldl_cons]
  rw [foldl_utf8Size]
  simp [size]

@[simp]
theorem size_append (left right : Text) :
    size (left ++ right) = size left + size right := by
  induction left with
  | nil => simp
  | cons character rest hypothesis =>
      rw [List.cons_append, size_cons, size_cons, hypothesis]
      omega

/-- What follows a byte offset, if the offset falls between two characters. -/
def drop? (offset : Nat) : Text → Option Text
  | [] => if offset = 0 then some [] else none
  | character :: rest =>
      if offset = 0 then
        some (character :: rest)
      else if character.utf8Size ≤ offset then
        drop? (offset - character.utf8Size) rest
      else
        none

@[simp]
theorem drop?_zero (text : Text) : drop? 0 text = some text := by
  cases text <;> rfl

@[simp]
theorem drop?_size_append (left right : Text) :
    drop? (size left) (left ++ right) = some right := by
  induction left with
  | nil => simp
  | cons character rest hypothesis =>
      have positive := character.utf8Size_pos
      simp only [List.cons_append, size_cons, drop?]
      rw [if_neg (by omega), if_pos (by omega), Nat.add_sub_cancel_left]
      exact hypothesis

/--
Move characters from `text` to the front of `taken` while they fit into
`count` bytes.
-/
def splitFrom (count : Nat) (taken : Text) : Text → Text × Text
  | [] => (taken.reverse, [])
  | character :: rest =>
      if character.utf8Size ≤ count then
        splitFrom (count - character.utf8Size) (character :: taken) rest
      else
        (taken.reverse, character :: rest)

/-- The longest beginning of at most `count` bytes, and what follows it. -/
def split (count : Nat) (text : Text) : Text × Text :=
  splitFrom count [] text

/-- Whether a text starts with another one. -/
def startsWith (beginning text : Text) : Bool :=
  beginning.isPrefixOf text

/-- The decimal digits of a number. -/
def ofNat (number : Nat) : Text :=
  Nat.toDigits 10 number

end Text

end BayesLex
