import BayesLex.Rule
import BayesLex.Vocabulary

/-!
# Rule tables

A table holds rules in the order of their priority: at every place the first
rule that matches wins.  Several rules of the standard table overlap (every
keyword is also an identifier), so their order is part of the lexical
grammar.
-/

namespace BayesLex

/-- Rules in the order of their priority. -/
abbrev RuleTable := List Rule

/-- The rule that matched, and what it matched. -/
structure Winner where
  rule : Rule
  found : Match

namespace RuleTable

/-- The first rule of a given name. -/
def get? (table : RuleTable) (name : String) : Option Rule :=
  table.find? (fun rule => rule.name == name)

/-- The place of the first rule of a given name, counted from zero. -/
def indexOf? (table : RuleTable) (name : String) : Option Nat :=
  table.findIdx? (fun rule => rule.name == name)

/-- Try the rules in their order at an offset with the text that follows it. -/
def firstMatch (offset : Nat) (rest : Text) :
    RuleTable → WordMemo → Option Winner × WordMemo
  | [], memo => (none, memo)
  | rule :: table, memo =>
      match rule.match? offset rest memo with
      | (some found, memo) => (some { rule, found }, memo)
      | (none, memo) => firstMatch offset rest table memo

/--
The rules of the language.  The rule for type names asks for no word boundary,
so that a type name is also cut off a longer word.
-/
def language : Except RuleError RuleTable := do
  let functionHead ← Rule.head "function-head" '(' [.functionName, .punctuation]
  let typeName ←
    Rule.pattern "type-name" (Vocabulary.alternation Vocabulary.types)
      (.one .typeName)
  let keyword ←
    Rule.pattern "keyword" (Vocabulary.wholeWord Vocabulary.keywords)
      (.one .keyword)
  let operator ←
    Rule.pattern "operator" (Vocabulary.alternation Vocabulary.operators)
      (.one .operator)
  let constant ←
    Rule.pattern "constant" (Vocabulary.wholeWord Vocabulary.constants)
      (.one .keywordConstant)
  let identifier ←
    Rule.pattern "identifier" Vocabulary.identifier (.one .identifier)
  let punctuation ←
    Rule.pattern "punctuation" (Vocabulary.alternation Vocabulary.delimiters)
      (.one .punctuation)
  let float ←
    Rule.pattern "float" "[0-9]+\\.[0-9]+".toList (.one .floatLiteral)
  let integer ←
    Rule.pattern "integer" "[0-9]+".toList (.one .integerLiteral)
  return [
    functionHead,
    typeName,
    keyword,
    operator.excluding (Vocabulary.commentOpeners.map String.toList),
    constant,
    identifier,
    Rule.scanner "string" .string .stringLiteral,
    punctuation,
    float,
    integer,
    Rule.scanner "line-comment" .lineComment .lineComment,
    Rule.scanner "block-comment" .blockComment .blockComment,
    Rule.scanner "whitespace" .whitespace .whitespace]

/-- The table for source text of the language. -/
def standard : RuleTable :=
  match language with
  | .ok table => table
  | .error _ => []

/-- All patterns of the language are valid. -/
theorem language_eq_standard : language = .ok standard := by
  have valid : language.isOk = true := by decide +kernel
  unfold standard
  cases equation : language with
  | ok table => rfl
  | error cause => simp [equation, Except.isOk, Except.toBool] at valid

end RuleTable

end BayesLex
