import BayesLex.Text.Basic

/-!
# Kinds of token

Every token has one of fourteen kinds.  Comments and white space are trivia,
which a parser skips.
-/

namespace BayesLex

/-- What a piece of source text is. -/
inductive Kind where
  | identifier
  /-- A word directly followed by an opening parenthesis. -/
  | functionName
  | typeName
  | keyword
  /-- One of the words for the two truth values and for null. -/
  | keywordConstant
  | operator
  | punctuation
  | stringLiteral
  | integerLiteral
  | floatLiteral
  | lineComment
  | blockComment
  | whitespace
  /-- A single character that no rule accepts. -/
  | error
  deriving DecidableEq

namespace Kind

/-- All kinds, in their order. -/
def all : List Kind :=
  [identifier, functionName, typeName, keyword, keywordConstant, operator,
    punctuation, stringLiteral, integerLiteral, floatLiteral, lineComment,
    blockComment, whitespace, error]

/-- The place of a kind among all kinds, counted from zero. -/
def index (kind : Kind) : Nat :=
  kind.ctorIdx

/-- Kinds are ordered by their place among all kinds. -/
def compare (left right : Kind) : Ordering :=
  Ord.compare left.index right.index

/-- Whether a parser skips tokens of this kind. -/
def isTrivia : Kind → Bool
  | whitespace | lineComment | blockComment => true
  | _ => false

/-- Whether tokens of this kind stand for a value. -/
def isLiteral : Kind → Bool
  | stringLiteral | integerLiteral | floatLiteral | keywordConstant => true
  | _ => false

/-- The name of a kind. -/
def name : Kind → String
  | identifier => "Identifier"
  | functionName => "FunctionName"
  | typeName => "TypeName"
  | keyword => "Keyword"
  | keywordConstant => "KeywordConstant"
  | operator => "Operator"
  | punctuation => "Punctuation"
  | stringLiteral => "StringLiteral"
  | integerLiteral => "IntegerLiteral"
  | floatLiteral => "FloatLiteral"
  | lineComment => "LineComment"
  | blockComment => "BlockComment"
  | whitespace => "Whitespace"
  | error => "Error"

/-- The name of a kind as a text. -/
def label (kind : Kind) : Text :=
  kind.name.toList

/-- The kind of a given name. -/
def ofName? (name : String) : Option Kind :=
  all.find? (fun kind => kind.name == name)

theorem ofName?_name (kind : Kind) : ofName? kind.name = some kind := by
  cases kind <;> decide

end Kind

end BayesLex
