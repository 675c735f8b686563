import BayesLex.Proofs.Resumption
import BayesLex.Proofs.Scanner
import BayesLex.Proofs.StandardTable

/-!
# The standard table is a maximal-munch grammar

`Grammar.munch` tells by the first character of a text what the text begins
with: a name, a number, a comment, a string, an operator, punctuation or white
space.  Wherever a scan by the standard table stands, the rules, tried in
their order, come to the same answer.
-/

namespace BayesLex

namespace Grammar

open Vocabulary

/-- What begins with a word: the head of a call, or a name of some kind. -/
def word (text : Text) : Match :=
  let name := text.takeWhile isWord
  if (text.dropWhile isWord).head? = some '(' then
    { first := { kind := .functionName, text := name }
      others := [{ kind := .punctuation, text := ['('] }] }
  else
    match Text.longest? (types.map String.toList) text with
    | some entry => .alone .typeName entry
    | none =>
        if name ∈ keywords.map String.toList then
          .alone .keyword name
        else if name ∈ constants.map String.toList then
          .alone .keywordConstant name
        else
          .alone .identifier name

/-- What begins with a digit: digits, or digits around a point. -/
def number (text : Text) : Match :=
  let whole := text.takeWhile Char.isDigit
  let behind := text.dropWhile Char.isDigit
  if behind.head? = some '.' ∧
      (behind.drop 1).head?.any Char.isDigit = true then
    .alone .floatLiteral
      (whole ++ '.' :: (behind.drop 1).takeWhile Char.isDigit)
  else
    .alone .integerLiteral whole

/-- What begins with a character that opens nothing. -/
def mark (character : Char) (text : Text) : Match :=
  match Text.longest? (operators.map String.toList) text with
  | some entry => .alone .operator entry
  | none =>
      if character ∈ [',', ';', '(', ')'] then
        .alone .punctuation [character]
      else if isBlank character then
        .alone .whitespace (text.takeWhile isBlank)
      else
        .alone .error [character]

/-- What begins with neither a word nor a digit. -/
def symbol (character : Char) (text : Text) : Match :=
  if ['/', '/'] <+: text then
    .alone .lineComment (Scanner.lineComment.scan text)
  else if ['/', '*'] <+: text then
    .alone .blockComment (Scanner.blockComment.scan text)
  else if character = '"' then
    .alone .stringLiteral (Scanner.string.scan text)
  else
    mark character text

/-- What a text begins with. -/
def munch (character : Char) (rest : Text) : Match :=
  if isWordStart character then
    word (character :: rest)
  else if character.isDigit then
    number (character :: rest)
  else
    symbol character (character :: rest)

end Grammar

namespace RuleTable

variable {rule : Rule} {table : RuleTable} {character : Char} {rest : Text}

theorem bite_of_some {found : Match}
    (recognised : rule.recognise (character :: rest) = some found) :
    bite (rule :: table) character rest = found := by
  simp [bite, winner?, recognised]

theorem bite_of_none
    (missed : rule.recognise (character :: rest) = none) :
    bite (rule :: table) character rest = bite table character rest := by
  simp [bite, winner?, missed]

theorem bite_congr {table table' : RuleTable}
    (same : bite table character rest = bite table' character rest) :
    bite (rule :: table) character rest =
      bite (rule :: table') character rest := by
  cases outcome : rule.recognise (character :: rest) with
  | some found => rw [bite_of_some outcome, bite_of_some outcome]
  | none => rw [bite_of_none outcome, bite_of_none outcome, same]

theorem bite_nil : bite [] character rest = .alone .error [character] := rfl

end RuleTable

namespace Grammar

open Vocabulary RuleTable

theorem types_wordStart : ∀ entry ∈ types.map String.toList,
    entry.head?.any isWordStart = true := by
  decide

theorem keywords_wordStart : ∀ word ∈ keywords.map String.toList,
    word.head?.any isWordStart = true := by
  decide

theorem constants_wordStart : ∀ word ∈ constants.map String.toList,
    word.head?.any isWordStart = true := by
  decide

theorem operators_symbol : ∀ entry ∈ operators.map String.toList,
    entry.head?.any (fun character => !(isWordStart character ||
      character.isDigit || character == '"')) = true := by
  decide

variable (name : String) (expression text : Text)

theorem recognise_types :
    (Rule.ofRegex name expression (.entry types) .typeName).recognise text =
      (Text.longest? (types.map String.toList) text).map
        (.alone .typeName) :=
  Rule.recognise_entry _ _ _ _ (by decide) (by decide) (by decide)

theorem recognise_keywords :
    (Rule.ofRegex name expression (.wholeWord keywords) .keyword).recognise
        text =
      if text.takeWhile isWord ∈ keywords.map String.toList then
        some (.alone .keyword (text.takeWhile isWord))
      else
        none :=
  Rule.recognise_wholeWord _ _ _ _ (by decide) (by decide) (by decide)

theorem recognise_constants :
    (Rule.ofRegex name expression (.wholeWord constants)
        .keywordConstant).recognise text =
      if text.takeWhile isWord ∈ constants.map String.toList then
        some (.alone .keywordConstant (text.takeWhile isWord))
      else
        none :=
  Rule.recognise_wholeWord _ _ _ _ (by decide) (by decide) (by decide)

theorem recognise_operators :
    ((Rule.ofRegex name expression (.entry operators) .operator).excluding
        (commentOpeners.map String.toList)).recognise text =
      if ['/', '/'] <+: text ∨ ['/', '*'] <+: text then
        none
      else
        (Text.longest? (operators.map String.toList) text).map
          (.alone .operator) := by
  have openers : commentOpeners.map String.toList =
      [['/', '/'], ['/', '*']] := by
    decide
  rw [Rule.recognise_excluding, openers,
    Rule.recognise_entry _ _ _ _ (by decide) (by decide) (by decide)]
  simp only [List.any_cons, List.any_nil, Bool.or_false, Bool.or_eq_true,
    Text.startsWith, List.isPrefixOf_iff_prefix]

variable {character : Char} {rest : Text}

/-- The rules at a word: a call, a type, and then the word as a whole. -/
theorem bite_word (starts : isWordStart character = true) :
    standard.bite character rest = word (character :: rest) := by
  have notOperator :
      Text.longest? (operators.map String.toList) (character :: rest) =
        none :=
    Text.longest?_of_other operators_symbol (by simp [starts]) rest
  rw [standard_eq, word]
  split
  · rename_i called
    apply bite_of_some
    rw [Rule.recognise_head]
    exact if_pos ⟨starts, called⟩
  · rename_i notCalled
    rw [bite_of_none (by
      rw [Rule.recognise_head]
      exact if_neg fun both => notCalled both.2)]
    cases entry : Text.longest? (types.map String.toList)
      (character :: rest) with
    | some entry =>
        apply bite_of_some
        rw [recognise_types, entry]
        rfl
    | none =>
        rw [bite_of_none (by rw [recognise_types, entry]; rfl)]
        dsimp only
        split
        · rename_i keyword
          apply bite_of_some
          rw [recognise_keywords, if_pos keyword]
        · rename_i notKeyword
          rw [bite_of_none (by rw [recognise_keywords, if_neg notKeyword]),
            bite_of_none (by
              rw [recognise_operators, notOperator, Option.map_none, ite_self])]
          split
          · rename_i constant
            apply bite_of_some
            rw [recognise_constants, if_pos constant]
          · rename_i notConstant
            rw [bite_of_none (by rw [recognise_constants, if_neg notConstant])]
            apply bite_of_some
            rw [Rule.recognise_identifier]
            exact if_pos starts

/-- Where no word begins, the rules for words do not matter. -/
theorem bite_of_no_word (other : isWordStart character = false) :
    standard.bite character rest =
      bite
        [(Rule.ofRegex "operator" (alternation operators) (.entry operators)
            .operator).excluding (commentOpeners.map String.toList),
          .scanner "string" .string .stringLiteral,
          .ofRegex "punctuation" (alternation delimiters) .delimiter
            .punctuation,
          .ofRegex "float" "[0-9]+\\.[0-9]+".toList .float .floatLiteral,
          .ofRegex "integer" "[0-9]+".toList .integer .integerLiteral,
          .scanner "line-comment" .lineComment .lineComment,
          .scanner "block-comment" .blockComment .blockComment,
          .scanner "whitespace" .whitespace .whitespace] character rest := by
  have notType :
      Text.longest? (types.map String.toList) (character :: rest) = none :=
    Text.longest?_of_other types_wordStart other rest
  have notKeyword : (character :: rest).takeWhile isWord ∉
      keywords.map String.toList :=
    Text.takeWhile_not_mem keywords_wordStart other rest
  have notConstant : (character :: rest).takeWhile isWord ∉
      constants.map String.toList :=
    Text.takeWhile_not_mem constants_wordStart other rest
  have noWord : (character :: rest).head?.any isWordStart ≠ true := by
    simp [other]
  rw [standard_eq,
    bite_of_none (by
      rw [Rule.recognise_head]
      exact if_neg fun both => noWord both.1),
    bite_of_none (by rw [recognise_types, notType]; rfl),
    bite_of_none (by rw [recognise_keywords, if_neg notKeyword])]
  apply bite_congr
  rw [bite_of_none (by rw [recognise_constants, if_neg notConstant]),
    bite_of_none (by rw [Rule.recognise_identifier, if_neg noWord])]

/-- The rules at a digit: the fraction decides. -/
theorem bite_number (other : isWordStart character = false)
    (digit : character.isDigit = true) :
    standard.bite character rest = number (character :: rest) := by
  have notOperator :
      Text.longest? (operators.map String.toList) (character :: rest) =
        none :=
    Text.longest?_of_other operators_symbol (by simp [digit]) rest
  have notQuote : character ≠ '"' := by
    rintro rfl
    cases digit
  have notDelimiter : character ∉ [',', ';', '(', ')'] := by
    intro member
    simp only [List.mem_cons, List.not_mem_nil, or_false] at member
    rcases member with rfl | rfl | rfl | rfl
    all_goals cases digit
  rw [bite_of_no_word other,
    bite_of_none (by
      rw [recognise_operators, notOperator, Option.map_none, ite_self]),
    bite_of_none (by
      rw [Rule.recognise_scanner, Scanner.scan_string_of_ne notQuote]
      rfl),
    bite_of_none (by rw [Rule.recognise_delimiter, if_neg notDelimiter]),
    number]
  split
  · rename_i fraction
    apply bite_of_some
    rw [Rule.recognise_float]
    exact if_pos ⟨digit, fraction⟩
  · rename_i noFraction
    rw [bite_of_none (by
      rw [Rule.recognise_float]
      exact if_neg fun all => noFraction all.2)]
    apply bite_of_some
    rw [Rule.recognise_integer]
    exact if_pos digit

/-- Where no number begins either, six rules are left. -/
theorem bite_of_no_number (other : isWordStart character = false)
    (noDigit : character.isDigit = false) :
    standard.bite character rest =
      bite
        [(Rule.ofRegex "operator" (alternation operators) (.entry operators)
            .operator).excluding (commentOpeners.map String.toList),
          .scanner "string" .string .stringLiteral,
          .ofRegex "punctuation" (alternation delimiters) .delimiter
            .punctuation,
          .scanner "line-comment" .lineComment .lineComment,
          .scanner "block-comment" .blockComment .blockComment,
          .scanner "whitespace" .whitespace .whitespace] character rest := by
  have missing : (character :: rest).head?.any Char.isDigit ≠ true := by
    simp [noDigit]
  rw [bite_of_no_word other]
  apply bite_congr
  apply bite_congr
  apply bite_congr
  rw [bite_of_none (by
      rw [Rule.recognise_float]
      exact if_neg fun all => missing all.1),
    bite_of_none (by
      rw [Rule.recognise_integer]
      exact if_neg missing)]

/-- The beginning of a comment is no operator, and no other symbol. -/
theorem bite_comment {second : Char} (opens : second = '/' ∨ second = '*') :
    standard.bite '/' (second :: rest) =
      bite
        [.scanner "line-comment" .lineComment .lineComment,
          .scanner "block-comment" .blockComment .blockComment,
          .scanner "whitespace" .whitespace .whitespace] '/'
        (second :: rest) := by
  have comment : ['/', '/'] <+: '/' :: second :: rest ∨
      ['/', '*'] <+: '/' :: second :: rest := by
    rcases opens with rfl | rfl
    · exact .inl ⟨rest, rfl⟩
    · exact .inr ⟨rest, rfl⟩
  rw [bite_of_no_number (by decide) (by decide),
    bite_of_none (by rw [recognise_operators, if_pos comment]),
    bite_of_none (by
      rw [Rule.recognise_scanner, Scanner.scan_string_of_ne (by decide)]
      rfl),
    bite_of_none (by rw [Rule.recognise_delimiter, if_neg (by decide)])]

theorem bite_lineComment :
    standard.bite '/' ('/' :: rest) =
      .alone .lineComment (Scanner.lineComment.scan ('/' :: '/' :: rest)) := by
  rw [bite_comment (.inl rfl)]
  apply bite_of_some
  rw [Rule.recognise_scanner]
  have long := Scanner.two_le_count_lineComment ⟨rest, rfl⟩
  exact Match.single?_of_ne_nil
    (Scanner.scan_ne_nil (List.cons_ne_nil _ _) (Nat.zero_lt_of_lt long))

theorem bite_blockComment :
    standard.bite '/' ('*' :: rest) =
      .alone .blockComment
        (Scanner.blockComment.scan ('/' :: '*' :: rest)) := by
  have noLine : ¬ ['/', '/'] <+: '/' :: '*' :: rest := by
    simp [List.cons_prefix_cons]
  rw [bite_comment (.inr rfl),
    bite_of_none (by
      rw [Rule.recognise_scanner, Scanner.scan_lineComment_of_not noLine]
      rfl)]
  apply bite_of_some
  rw [Rule.recognise_scanner]
  have long := Scanner.two_le_count_blockComment ⟨rest, rfl⟩
  exact Match.single?_of_ne_nil
    (Scanner.scan_ne_nil (List.cons_ne_nil _ _) (Nat.zero_lt_of_lt long))

theorem bite_string :
    standard.bite '"' rest =
      .alone .stringLiteral (Scanner.string.scan ('"' :: rest)) := by
  have notOperator :
      Text.longest? (operators.map String.toList) ('"' :: rest) = none :=
    Text.longest?_of_other operators_symbol (by decide) rest
  rw [bite_of_no_number (by decide) (by decide),
    bite_of_none (by
      rw [recognise_operators, notOperator, Option.map_none, ite_self])]
  apply bite_of_some
  rw [Rule.recognise_scanner]
  exact Match.single?_of_ne_nil
    (Scanner.scan_ne_nil (List.cons_ne_nil _ _) (Scanner.count_string_pos rest))

/-- The rules at a character that opens nothing. -/
theorem bite_mark (other : isWordStart character = false)
    (noDigit : character.isDigit = false)
    (noLine : ¬ ['/', '/'] <+: character :: rest)
    (noBlock : ¬ ['/', '*'] <+: character :: rest)
    (notQuote : character ≠ '"') :
    standard.bite character rest = mark character (character :: rest) := by
  have noComment : ¬ (['/', '/'] <+: character :: rest ∨
      ['/', '*'] <+: character :: rest) := by
    rintro (line | block)
    · exact noLine line
    · exact noBlock block
  rw [bite_of_no_number other noDigit, mark]
  cases entry : Text.longest? (operators.map String.toList)
    (character :: rest) with
  | some entry =>
      apply bite_of_some
      rw [recognise_operators, if_neg noComment, entry]
      rfl
  | none =>
      rw [bite_of_none (by
          rw [recognise_operators, if_neg noComment, entry]
          rfl),
        bite_of_none (by
          rw [Rule.recognise_scanner, Scanner.scan_string_of_ne notQuote]
          rfl)]
      dsimp only
      split
      · rename_i delimiter
        apply bite_of_some
        rw [Rule.recognise_delimiter, if_pos delimiter]
      · rename_i noDelimiter
        rw [bite_of_none (by
            rw [Rule.recognise_delimiter, if_neg noDelimiter]),
          bite_of_none (by
            rw [Rule.recognise_scanner,
              Scanner.scan_lineComment_of_not noLine]
            rfl),
          bite_of_none (by
            rw [Rule.recognise_scanner,
              Scanner.scan_blockComment_of_not noBlock]
            rfl)]
        split
        · rename_i blank
          apply bite_of_some
          rw [Rule.recognise_scanner, Scanner.scan_whitespace]
          exact Match.single?_of_ne_nil (by simp [blank])
        · rename_i solid
          rw [bite_of_none (by
              rw [Rule.recognise_scanner, Scanner.scan_whitespace,
                List.takeWhile_cons_of_neg solid]
              rfl),
            bite_nil]

theorem bite_symbol (other : isWordStart character = false)
    (noDigit : character.isDigit = false) :
    standard.bite character rest = symbol character (character :: rest) := by
  rw [symbol]
  split
  · rename_i line
    rcases line with ⟨comment, split⟩
    cases split
    exact bite_lineComment
  · rename_i noLine
    split
    · rename_i block
      rcases block with ⟨comment, split⟩
      cases split
      exact bite_blockComment
    · rename_i noBlock
      split
      · rename_i quote
        cases quote
        exact bite_string
      · rename_i notQuote
        exact bite_mark other noDigit noLine noBlock notQuote

/-- The rules of the standard table come to what the grammar says. -/
theorem bite_standard (character : Char) (rest : Text) :
    standard.bite character rest = munch character rest := by
  unfold munch
  cases starts : isWordStart character with
  | true => exact bite_word starts
  | false =>
      cases digit : character.isDigit with
      | true => exact bite_number starts digit
      | false => exact bite_symbol starts digit

example : munch 'L' "isting x".toList = .alone .typeName "List".toList := by
  decide

example : munch '1' ".5.2".toList = .alone .floatLiteral "1.5".toList := by
  decide

end Grammar

/--
Wherever a scan by the standard table stands, a step emits what the grammar
says of the text that remains, and goes on behind it.
-/
theorem step_munches (source : Text) (commands : List Command)
    (character : Char) (rest : Text)
    (remains :
      ((Session.new .standard source).run commands).2.lexer.remaining =
        character :: rest) :
    let lexer := ((Session.new .standard source).run commands).2.lexer
    let found := Grammar.munch character rest
    let advance := lexer.step character
    advance.token.toList ++ advance.lexer.pending =
        Token.layout lexer.cursor found.lexemes ∧
      advance.lexer.cursor = lexer.cursor + Text.size found.text ∧
      found.text ++ advance.lexer.remaining = character :: rest := by
  have continues := ((Session.continues_new .standard source).run commands).1
  rcases continues.sound.step remains with ⟨event, memo, _, step⟩
  rw [continues.table, Grammar.bite_standard] at step
  have covers := RuleTable.standard.covers_bite character rest
  rw [Grammar.bite_standard] at covers
  intro lexer found advance
  have passed : advance = lexer.pass event found memo := step
  rw [passed]
  refine ⟨rfl, rfl, ?_⟩
  rw [Lexer.pass, remains]
  exact covers.text_append_drop

theorem step_munches_listing :
    ((Session.new .standard "Listing".toList).run [.next]).2.lexer.remaining =
        'i' :: "ng".toList ∧
      let lexer := ((Session.new .standard "Listing".toList).run [.next]).2.lexer
      let found := Grammar.munch 'i' "ng".toList
      let advance := lexer.step 'i'
      advance.token.toList ++ advance.lexer.pending =
          Token.layout lexer.cursor found.lexemes ∧
        advance.lexer.cursor = lexer.cursor + Text.size found.text ∧
        found.text ++ advance.lexer.remaining = 'i' :: "ng".toList :=
  have remains :
      ((Session.new .standard "Listing".toList).run
        [.next]).2.lexer.remaining = 'i' :: "ng".toList := by
    decide +kernel
  ⟨remains, step_munches _ _ _ _ remains⟩

end BayesLex
