import BayesLex.Proofs.Regex.Anchored
import BayesLex.Proofs.Scan

/-!
# The rules of the standard table

The expressions of the standard table are read into regular expressions of a
few shapes, whose matches are known.  So it is told here of each rule what it
recognises at the beginning of a text, without a regular expression.
-/

namespace BayesLex

namespace CharSet

/-- The characters that may begin an identifier. -/
def wordStarts : CharSet where
  ranges := [(65, 90), (95, 95), (97, 122)]

/-- The digits of number literals. -/
def digits : CharSet where
  ranges := [(48, 57)]

/-- The characters that are punctuation. -/
def delimiters : CharSet where
  ranges := [(40, 41), (44, 44), (59, 59)]

theorem contains_wordStarts : wordStarts.contains = isWordStart := by
  ext character
  rw [Bool.eq_iff_iff, isWordStart_iff]
  simp only [wordStarts, contains, Ranges.contains]
  grind

theorem contains_word_of_wordStarts (character : Char)
    (starts : wordStarts.contains character = true) :
    (ofClass .word).contains character = true := by
  rw [contains_wordStarts] at starts
  exact isWord_of_isWordStart starts

theorem contains_digits : digits.contains = Char.isDigit := by
  ext character
  rw [Bool.eq_iff_iff]
  simp only [digits, contains, Ranges.contains, Char.isDigit,
    Bool.and_eq_true, ge_iff_le, decide_eq_true_eq, UInt32.le_iff_toNat_le,
    Char.toNat_val, Char.reduceVal, UInt32.reduceToNat]
  grind

theorem contains_delimiters (character : Char) :
    delimiters.contains character = true ↔
      character ∈ [',', ';', '(', ')'] := by
  simp only [delimiters, contains, Ranges.contains, List.mem_cons,
    List.not_mem_nil, or_false, ← Char.toNat_inj, Char.reduceToNat]
  grind

end CharSet

namespace Regex

/-- A text that starts with one of some entries. -/
def entry (entries : List String) : Regex :=
  (anyOf (entries.map String.toList)).anchored

/-- A text that starts with one of some words, and the word ends there. -/
def wholeWord (words : List String) : Regex :=
  (seq (anyOf (words.map String.toList)) (.assertion .wordBoundary)).anchored

def identifier : Regex :=
  (seq (one .wordStarts)
    (iterate (one (.ofClass .word)) ⟨0, none, true⟩)).anchored

def delimiter : Regex :=
  (one .delimiters).anchored

def integer : Regex :=
  (iterate (one .digits) ⟨1, none, true⟩).anchored

def float : Regex :=
  (seq (iterate (one .digits) ⟨1, none, true⟩)
    (seq (one (.single '.')) (iterate (one .digits) ⟨1, none, true⟩))).anchored

/-- An identifier is a word, wherever it may begin. -/
theorem find?_identifier (text : Text) :
    identifier.automaton.find? text =
      if text.head?.any isWordStart then
        some (runOver (text.takeWhile isWord))
      else
        none := by
  have inWord : (CharSet.ofClass .word).contains = isWord := rfl
  rw [identifier, find?_headed CharSet.contains_word_of_wordStarts,
    CharSet.contains_wordStarts, inWord]

end Regex

/-- A match of one lexeme alone. -/
def Match.alone (kind : Kind) (text : Text) : Match where
  first := { kind, text }
  others := []

@[simp]
theorem Match.text_alone (kind : Kind) (text : Text) :
    (alone kind text).text = text := by
  simp [Match.text, lexemes, alone]

theorem Match.single?_of_ne_nil {kind : Kind} {text : Text}
    (solid : text ≠ []) : single? kind text = some (alone kind text) := by
  cases text with
  | nil => exact absurd rfl solid
  | cons character rest => rfl

theorem Emission.cut_runOver {kind : Kind} {text word : Text}
    (begins : word <+: text) (solid : word ≠ []) :
    (one kind).cut text (Regex.runOver word) =
      some (Match.alone kind word) := by
  rcases begins with ⟨rest, rfl⟩
  rw [cut, Regex.runOver, List.take_left]
  exact Match.single?_of_ne_nil solid

namespace Rule

/-- The rule of an expression that has been read. -/
def ofRegex (name : String) (expression : Text) (regex : Regex)
    (kind : Kind) : Rule where
  name
  matcher := .pattern (anchor expression) regex.engine (.one kind)

theorem pattern_eq_ofRegex {expression : Text} {regex : Regex}
    (parsed : Regex.parse? (anchor expression) = some regex) (name : String)
    (kind : Kind) :
    pattern name expression (.one kind) =
      .ok (ofRegex name expression regex kind) :=
  pattern_eq_ok parsed (by rintro _ ⟨⟩) name

variable (name : String) (expression : Text) (kind : Kind) (text : Text)

theorem recognise_ofRegex (regex : Regex) :
    (ofRegex name expression regex kind).recognise text =
      (regex.automaton.find? text).bind ((Emission.one kind).cut text) := rfl

theorem recognise_head (opener : Char) (nameKind openerKind : Kind) :
    ({ name, matcher := .head opener nameKind openerKind } : Rule).recognise
        text =
      if text.head?.any isWordStart = true ∧
          (text.dropWhile isWord).head? = some opener then
        some
          { first := { kind := nameKind, text := text.takeWhile isWord }
            others := [{ kind := openerKind, text := [opener] }] }
      else
        none := rfl

theorem recognise_scanner (form : Scanner) :
    (scanner name form kind).recognise text =
      Match.single? kind (form.scan text) := rfl

/-- Exclusions come before what a rule of an expression recognises. -/
theorem recognise_excluding (regex : Regex) (exclusions : List Text) :
    ((ofRegex name expression regex kind).excluding exclusions).recognise
        text =
      if exclusions.any fun exclusion => Text.startsWith exclusion text then
        none
      else
        (ofRegex name expression regex kind).recognise text := rfl

/-- A choice between entries recognises the longest one. -/
theorem recognise_entry {entries : List String}
    (nonempty : entries.map String.toList ≠ [])
    (solid : ∀ entry ∈ entries.map String.toList, entry ≠ [])
    (ordered : (entries.map String.toList).Pairwise fun earlier later =>
      ¬ earlier <+: later) :
    (ofRegex name expression (.entry entries) kind).recognise text =
      (Text.longest? (entries.map String.toList) text).map
        (Match.alone kind) := by
  rw [recognise_ofRegex, Regex.entry, Regex.find?_anyOf nonempty solid,
    Text.find?_eq_longest? text ordered]
  cases found : Text.longest? (entries.map String.toList) text with
  | none => rfl
  | some entry =>
      rcases Text.mem_of_longest?_eq_some found with ⟨member, begins⟩
      exact Emission.cut_runOver begins (solid entry member)

theorem recognise_wholeWord {words : List String}
    (nonempty : words.map String.toList ≠ [])
    (solid : ∀ word ∈ words.map String.toList, word ≠ [])
    (inWord : ∀ word ∈ words.map String.toList, word.all isWord = true) :
    (ofRegex name expression (.wholeWord words) kind).recognise text =
      if text.takeWhile isWord ∈ words.map String.toList then
        some (Match.alone kind (text.takeWhile isWord))
      else
        none := by
  rw [recognise_ofRegex, Regex.wholeWord,
    Regex.find?_wholeWord nonempty solid
      (fun word member => List.all_eq_true.1 (inWord word member))]
  split
  · rename_i member
    exact Emission.cut_runOver (List.takeWhile_prefix isWord)
      (solid _ member)
  · rfl

theorem recognise_identifier :
    (ofRegex name expression .identifier kind).recognise text =
      if text.head?.any isWordStart then
        some (Match.alone kind (text.takeWhile isWord))
      else
        none := by
  rw [recognise_ofRegex, Regex.find?_identifier]
  split
  · rename_i starts
    exact Emission.cut_runOver (List.takeWhile_prefix isWord)
      (takeWhile_isWord_ne_nil starts)
  · rfl

theorem recognise_delimiter (character : Char) (rest : Text) :
    (ofRegex name expression .delimiter kind).recognise (character :: rest) =
      if character ∈ [',', ';', '(', ')'] then
        some (Match.alone kind [character])
      else
        none := by
  rw [recognise_ofRegex, Regex.delimiter, Regex.find?_one, List.head?_cons,
    Option.any_some]
  simp only [CharSet.contains_delimiters]
  split
  · rfl
  · rfl

theorem recognise_integer :
    (ofRegex name expression .integer kind).recognise text =
      if text.head?.any Char.isDigit then
        some (Match.alone kind (text.takeWhile Char.isDigit))
      else
        none := by
  rw [recognise_ofRegex, Regex.integer, Regex.find?_loop,
    CharSet.contains_digits]
  split
  · rename_i begins
    exact Emission.cut_runOver (List.takeWhile_prefix Char.isDigit)
      (Text.takeWhile_ne_nil begins)
  · rfl

/-- A number with a fraction has digits on both sides of its point. -/
theorem recognise_float :
    (ofRegex name expression .float kind).recognise text =
      if text.head?.any Char.isDigit = true ∧
          (text.dropWhile Char.isDigit).head? = some '.' ∧
          ((text.dropWhile Char.isDigit).drop 1).head?.any Char.isDigit =
            true then
        some (Match.alone kind (text.takeWhile Char.isDigit ++ '.' ::
          ((text.dropWhile Char.isDigit).drop 1).takeWhile Char.isDigit))
      else
        none := by
  rw [recognise_ofRegex, Regex.float, Regex.find?_decimal (by decide),
    CharSet.contains_digits]
  split
  · rename_i holds
    refine Emission.cut_runOver ?_ (by simp)
    rcases List.head?_eq_some_iff.1 holds.2.1 with ⟨fraction, behind⟩
    refine ⟨fraction.dropWhile Char.isDigit, ?_⟩
    rw [behind, List.append_assoc, List.cons_append, List.drop_one,
      List.tail_cons, List.takeWhile_append_dropWhile, ← behind,
      List.takeWhile_append_dropWhile]
  · rfl

end Rule

namespace RuleTable

open Vocabulary

theorem parse_types :
    Regex.parse? (Rule.anchor (alternation types)) =
      some (.entry types) := by
  decide +kernel

theorem parse_keywords :
    Regex.parse? (Rule.anchor (wholeWord keywords)) =
      some (.wholeWord keywords) := by
  decide +kernel

theorem parse_operators :
    Regex.parse? (Rule.anchor (alternation operators)) =
      some (.entry operators) := by
  decide +kernel

theorem parse_constants :
    Regex.parse? (Rule.anchor (wholeWord constants)) =
      some (.wholeWord constants) := by
  decide +kernel

theorem parse_identifier :
    Regex.parse? (Rule.anchor identifier) = some .identifier := by
  decide +kernel

theorem parse_delimiters :
    Regex.parse? (Rule.anchor (alternation delimiters)) =
      some .delimiter := by
  decide +kernel

theorem parse_float :
    Regex.parse? (Rule.anchor "[0-9]+\\.[0-9]+".toList) = some .float := by
  decide +kernel

theorem parse_integer :
    Regex.parse? (Rule.anchor "[0-9]+".toList) = some .integer := by
  decide +kernel

/-- The rules of the standard table, with their expressions read. -/
theorem standard_eq :
    standard =
      [{ name := "function-head"
         matcher := .head '(' .functionName .punctuation },
        .ofRegex "type-name" (alternation types) (.entry types) .typeName,
        .ofRegex "keyword" (wholeWord keywords) (.wholeWord keywords) .keyword,
        (Rule.ofRegex "operator" (alternation operators) (.entry operators)
          .operator).excluding (commentOpeners.map String.toList),
        .ofRegex "constant" (wholeWord constants) (.wholeWord constants)
          .keywordConstant,
        .ofRegex "identifier" identifier .identifier .identifier,
        .scanner "string" .string .stringLiteral,
        .ofRegex "punctuation" (alternation delimiters) .delimiter
          .punctuation,
        .ofRegex "float" "[0-9]+\\.[0-9]+".toList .float .floatLiteral,
        .ofRegex "integer" "[0-9]+".toList .integer .integerLiteral,
        .scanner "line-comment" .lineComment .lineComment,
        .scanner "block-comment" .blockComment .blockComment,
        .scanner "whitespace" .whitespace .whitespace] := by
  have read := language_eq_standard
  simp only [language, Rule.head, Rule.pattern_eq_ofRegex parse_types,
    Rule.pattern_eq_ofRegex parse_keywords,
    Rule.pattern_eq_ofRegex parse_operators,
    Rule.pattern_eq_ofRegex parse_constants,
    Rule.pattern_eq_ofRegex parse_identifier,
    Rule.pattern_eq_ofRegex parse_delimiters,
    Rule.pattern_eq_ofRegex parse_float,
    Rule.pattern_eq_ofRegex parse_integer] at read
  exact (Except.ok.inj read).symm

end RuleTable

/--
The word that is looked up ends where the expression for identifiers ends its
match, and no word is looked up where it has none.
-/
theorem WordMemo.Sound.lookup_ends_identifier {memo : WordMemo}
    {left rest : Text} (sound : memo.Sound (left ++ rest)) :
    ∃ engine,
      Regex.compile? (Rule.anchor Vocabulary.identifier) = some engine ∧
      (memo.lookup (Text.size left) rest).1.map Word.stop =
        (engine.find? rest).map fun run =>
          Text.size left + Text.size (rest.take run.taken) := by
  refine ⟨Regex.identifier.engine,
    Regex.compile?_of_parse? RuleTable.parse_identifier, ?_⟩
  have found := Regex.find?_identifier rest
  cases starts : rest.head?.any isWordStart with
  | false =>
      rw [starts] at found
      rw [lookup_of_not_start memo _ starts, Regex.find?_engine, found]
      rfl
  | true =>
      rcases sound.lookup starts with ⟨word, _, lookup, stop, _, _⟩
      have taken : rest.take (rest.takeWhile isWord).length =
          rest.takeWhile isWord :=
        (List.prefix_iff_eq_take.1 (List.takeWhile_prefix isWord)).symm
      rw [starts, if_pos rfl] at found
      rw [lookup, Regex.find?_engine, found, Option.map_some, Option.map_some,
        stop, Regex.runOver, taken]
      rfl

end BayesLex
