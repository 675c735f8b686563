import BayesLex.Position
import BayesLex.Text.Quoted

/-!
# Lexical errors

The only lexical error is a character that no rule accepts.  The lexer goes
on behind it, so the error is reported and never raised.
-/

namespace BayesLex

/-- A character that no rule accepts. -/
structure LexicalError where
  character : Char
  span : Span
  deriving DecidableEq

namespace LexicalError

/-- What is said about the character itself. -/
def complaint (error : LexicalError) : Text :=
  "unrecognized character ".toList ++ Quoted.character error.character

/-- What is said about an error by its offsets. -/
def message (error : LexicalError) : Text :=
  error.complaint ++ " at ".toList ++ error.span.describe

/-- What is said about an error by its path, line and column. -/
def located (error : LexicalError) (file : SourceFile) : Text :=
  file.title ++ [':'] ++ (file.position error.span.start).label ++
    ": ".toList ++ error.complaint

/-- The fields of an error. -/
def describe (error : LexicalError) : Text :=
  "\x7b ch: ".toList ++ Quoted.character error.character ++
    ", span: ".toList ++ error.span.describe ++ " \x7d".toList

/-- What is said about a number of errors. -/
def summary (count : Nat) : Text :=
  Text.ofNat count ++ " unrecognized character(s)".toList

end LexicalError

end BayesLex
