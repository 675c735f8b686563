import BayesLex.Text.Basic
import BayesLex.Text.Shown

/-!
# Quoted text

Tokens and diagnostics show source text between quotation marks.  The mark
itself and the backslash are preceded by a backslash, four control
characters have short names, and every other character that cannot be shown
as it is appears by its number in hexadecimal.
-/

namespace BayesLex.Quoted

/-- The number of a character between braces, as in `\u{301}`. -/
def byNumber (character : Char) : Text :=
  ['\\', 'u', '{'] ++ Nat.toDigits 16 character.toNat ++ ['}']

/-- A character as it appears between two quotation marks `mark`. -/
def escape (mark character : Char) : Text :=
  if character = '\x00' then
    ['\\', '0']
  else if character = '\t' then
    ['\\', 't']
  else if character = '\r' then
    ['\\', 'r']
  else if character = '\n' then
    ['\\', 'n']
  else if character = '\\' then
    ['\\', '\\']
  else if character = mark then
    ['\\', mark]
  else if isShown character then
    [character]
  else
    byNumber character

/-- A text between double quotation marks. -/
def text (content : Text) : Text :=
  '"' :: content.flatMap (escape '"') ++ ['"']

/-- A character between single quotation marks. -/
def character (content : Char) : Text :=
  '\'' :: escape '\'' content ++ ['\'']

end BayesLex.Quoted
