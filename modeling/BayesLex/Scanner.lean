import BayesLex.Text.Basic
import BayesLex.Text.Blank

/-!
# Scanners

Four forms of token have a rule that is told best by walking over the text:
string literals, the two kinds of comment and white space.  A scanner counts
the characters of such a token at the beginning of a text; no character means
that none starts there.
-/

namespace BayesLex

/-- A way to recognise a token by walking over the text. -/
inductive Scanner where
  | string
  | lineComment
  | blockComment
  | whitespace
  deriving DecidableEq

namespace Scanner

/--
Count on to the end of a string literal whose quotation mark and `count - 1`
more characters have been passed.  A backslash takes the next character with
it.  Without a closing mark the literal ends before the end of the line.
-/
def stringEnd (count : Nat) : Text → Nat
  | [] => count
  | ['\\'] => count + 1
  | '\\' :: _ :: rest => stringEnd (count + 2) rest
  | '"' :: _ => count + 1
  | '\n' :: _ => count
  | _ :: rest => stringEnd (count + 1) rest

/-- Count on to the end of the line, which belongs to the comment. -/
def lineEnd (count : Nat) : Text → Nat
  | [] => count
  | '\n' :: _ => count + 1
  | _ :: rest => lineEnd (count + 1) rest

/-- Count on to the nearest end of a block comment. -/
def blockEnd (count : Nat) : Text → Nat
  | [] => count
  | '*' :: '/' :: _ => count + 2
  | _ :: rest => blockEnd (count + 1) rest

/-- The number of characters of the token at the beginning of a text. -/
def count : Scanner → Text → Nat
  | string, '"' :: rest => stringEnd 1 rest
  | lineComment, '/' :: '/' :: rest => lineEnd 2 rest
  | blockComment, '/' :: '*' :: rest => blockEnd 2 rest
  | whitespace, text => (text.takeWhile isBlank).length
  | _, _ => 0

/-- The token at the beginning of a text. -/
def scan (scanner : Scanner) (text : Text) : Text :=
  text.take (scanner.count text)

end Scanner

end BayesLex
