import BayesLex.Kind
import BayesLex.Span
import BayesLex.Text.Quoted

/-!
# Lexemes and tokens

A lexeme is a piece of source text with its kind, and a token is a lexeme
with the byte offset at which it starts.  The end of a token follows from
its text, so consecutive tokens are obtained from lexemes by laying them out
one behind the other: `Token.layout`.
-/

namespace BayesLex

/-- A piece of text and what it is. -/
structure Lexeme where
  kind : Kind
  text : Text
  deriving DecidableEq

/-- A lexeme at its byte offset in the source. -/
structure Token extends Lexeme where
  start : Nat
  deriving DecidableEq

namespace Lexeme

/-- The text that a list of lexemes covers. -/
def texts (lexemes : List Lexeme) : Text :=
  lexemes.flatMap text

@[simp]
theorem texts_nil : texts [] = [] := rfl

@[simp]
theorem texts_cons (lexeme : Lexeme) (rest : List Lexeme) :
    texts (lexeme :: rest) = lexeme.text ++ texts rest := by
  simp [texts]

@[simp]
theorem texts_append (left right : List Lexeme) :
    texts (left ++ right) = texts left ++ texts right := by
  simp [texts]

end Lexeme

namespace Token

/-- The number of bytes of a token. -/
def size (token : Token) : Nat :=
  Text.size token.text

/-- The byte offset at which a token ends. -/
def stop (token : Token) : Nat :=
  token.start + token.size

/-- The bytes that a token covers. -/
def span (token : Token) : Span where
  start := token.start
  stop := token.stop
  ordered := Nat.le_add_right _ _

/-- A token as its kind, its quoted text and its span. -/
def describe (token : Token) : Text :=
  token.kind.label ++ ['('] ++ Quoted.text token.text ++ [')', '@'] ++
    token.span.describe

/-- Lexemes one behind the other, the first of them at `start`. -/
def layout (start : Nat) : List Lexeme → List Token
  | [] => []
  | lexeme :: rest =>
      { lexeme with start } :: layout (start + Text.size lexeme.text) rest

@[simp]
theorem layout_nil (start : Nat) : layout start [] = [] := rfl

@[simp]
theorem layout_cons (start : Nat) (lexeme : Lexeme) (rest : List Lexeme) :
    layout start (lexeme :: rest) =
      { lexeme with start } ::
        layout (start + Text.size lexeme.text) rest := rfl

theorem layout_append (start : Nat) (left right : List Lexeme) :
    layout start (left ++ right) =
      layout start left ++
        layout (start + Text.size (Lexeme.texts left)) right := by
  induction left generalizing start with
  | nil => simp
  | cons lexeme rest hypothesis =>
      simp [hypothesis, Nat.add_assoc]

@[simp]
theorem map_toLexeme_layout (start : Nat) (lexemes : List Lexeme) :
    (layout start lexemes).map toLexeme = lexemes := by
  induction lexemes generalizing start with
  | nil => rfl
  | cons lexeme rest hypothesis => simp [hypothesis]

end Token

end BayesLex
