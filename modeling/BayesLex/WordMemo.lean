import BayesLex.Text.Basic
import BayesLex.Text.Word

/-!
# The word memo

A rule for function heads has to know where the word at the cursor ends.
Other rules may stop inside a word, and then every later place of the word is
tried again, so the word measured last is remembered: an identifier that begins
inside of it ends where it ends.  A counter tells how many bytes have been
measured.

A word is measured by its characters here.  This is what the expression for
identifiers finds (`WordMemo.Sound.lookup_ends_identifier`).

Beside the latest word and the counter a memo lists all words that have been
measured.  No answer comes from that list; it is kept to say what the counter
has counted.
-/

namespace BayesLex

/-- Whether a character may begin an identifier. -/
def isWordStart (character : Char) : Bool :=
  character.isAlpha || character = '_'

/-- The extent of a word, and the character behind it. -/
structure Word where
  start : Nat
  stop : Nat
  next : Option Char
  deriving DecidableEq

/-- What is known of the words measured so far. -/
structure WordMemo where
  /-- The word measured last. -/
  latest : Option Word := none
  /-- The number of bytes measured so far. -/
  measured : Nat := 0
  /-- The words measured so far, latest first, which decide nothing. -/
  words : List Word := []
  deriving DecidableEq

namespace Word

/-- The word at the beginning of a text that starts at an offset. -/
def measure (start : Nat) (rest : Text) : Word where
  start
  stop := start + Text.size (rest.takeWhile isWord)
  next := (rest.dropWhile isWord).head?

/-- The number of bytes of a word. -/
def size (word : Word) : Nat :=
  word.stop - word.start

/-- Whether an offset lies inside a word. -/
def covers (word : Word) (offset : Nat) : Bool :=
  word.start ≤ offset && offset < word.stop

end Word

namespace WordMemo

/-- The latest word, if an offset lies in it. -/
def covering? (memo : WordMemo) (offset : Nat) : Option Word :=
  memo.latest.filter (fun word => word.covers offset)

/-- Remember a word that has just been measured. -/
def remember (memo : WordMemo) (word : Word) : WordMemo where
  latest := some word
  measured := memo.measured + word.size
  words := word :: memo.words

/--
The word whose end is the end of the identifier that begins at an offset, if
one does.
-/
def lookup (memo : WordMemo) (offset : Nat) (rest : Text) :
    Option Word × WordMemo :=
  if rest.head?.any isWordStart then
    match memo.covering? offset with
    | some word => (some word, memo)
    | none =>
        let word := Word.measure offset rest
        (some word, memo.remember word)
  else
    (none, memo)

end WordMemo

end BayesLex
