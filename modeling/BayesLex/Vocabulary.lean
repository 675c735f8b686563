import BayesLex.Regex.Basic

/-!
# The words of BLOG

The fixed spellings of BLOG, a language for models in Bayesian logic, and the
regular expressions that are made of them.  Among the operators a longer one
stands before those it starts with.
-/

namespace BayesLex.Vocabulary

/-- The names of the predefined types. -/
def types : List String :=
  ["Integer", "Real", "Boolean", "NaturalNum", "List", "Map", "TabularCPD",
    "Categorical", "Distribution", "Gaussian"]

/-- The keywords. -/
def keywords : List String :=
  ["extern", "import", "fixed", "distinct", "random", "origin", "param",
    "type", "forall", "exists", "obs", "query", "if", "then", "else"]

/-- The operators. -/
def operators : List String :=
  ["->", "==", "!=", "<=", ">=", "=", "~", ":", "+", "-", "*", "/", "[", "]",
    "\x7b", "\x7d", "!", "<", ">", "&", "|", "#", "^", "."]

/-- The words for the two truth values and for null. -/
def constants : List String :=
  ["true", "false", "null"]

/-- The punctuation. -/
def delimiters : List String :=
  [",", ";", "(", ")"]

/-- What begins a comment, and so no operator. -/
def commentOpeners : List String :=
  ["//", "/*"]

/-- A regular expression for any of the words, earlier ones preferred. -/
def alternation (words : List String) : Text :=
  List.intercalate ['|'] (words.map fun word => Regex.escape word.toList)

/-- A regular expression for any of the words up to a word boundary. -/
def wholeWord (words : List String) : Text :=
  "(?:".toList ++ alternation words ++ ")\\b".toList

/-- A regular expression for an identifier. -/
def identifier : Text :=
  "[A-Za-z_]\\w*".toList

end BayesLex.Vocabulary
