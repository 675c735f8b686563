import BayesLex.Proofs.Resumption
import BayesLex.Proofs.Separators

/-!
# Errors are local

A stray character is one with which no token begins and which no word, operator
or delimiter holds.  Put between two tokens it becomes an error of its own: the
tokens before it stay as they are, and those behind it are only moved.

That does not hold behind the name of a function, which is one for the sake of
the parenthesis that follows, nor behind a literal or a comment that ended
without what closes it, since the stray character would become a part of it.
-/

namespace BayesLex

/-- A lexeme that is not a literal or a comment without what closes it. -/
def Lexeme.Finished (lexeme : Lexeme) : Prop :=
  match lexeme.kind with
  | .stringLiteral =>
      ∃ body, Scanner.Enclosed body ∧ lexeme.text = '"' :: body ++ ['"']
  | .lineComment => lexeme.text.getLast? = some '\n'
  | .blockComment => ∃ body, lexeme.text = '/' :: '*' :: body ++ ['*', '/']
  | _ => True

/-- A finished lexeme ends before everything that is not white space. -/
theorem Lexeme.Finished.endsBefore {lexeme : Lexeme}
    (finished : lexeme.Finished) {separator : Char}
    (solid : isBlank separator = false) : lexeme.EndsBefore separator := by
  intro scanner found more
  rcases lexeme with ⟨kind, text⟩
  cases kind with
  | stringLiteral =>
      rcases finished with ⟨body, enclosed, rfl⟩
      cases found
      exact Nat.le_of_eq (Scanner.count_string_closed enclosed _)
  | lineComment =>
      rcases List.getLast?_eq_some_iff.1 finished with ⟨line, rfl⟩
      cases found
      dsimp only
      rw [List.append_assoc, List.singleton_append, List.length_append,
        List.length_singleton]
      exact Scanner.count_lineComment_le line _
  | blockComment =>
      rcases finished with ⟨body, rfl⟩
      cases found
      exact Scanner.count_blockComment_le body _
  | whitespace =>
      cases found
      exact Scanner.count_whitespace_le solid text more
  | _ => cases found

namespace Grammar

open Vocabulary

/--
A character that is no word character, no white space, no quotation mark, no
delimiter and not the first one of an operator.
-/
structure Stray (character : Char) : Prop where
  notWord : isWord character = false
  notBlank : isBlank character = false
  notQuote : character ≠ '"'
  notDelimiter : ∀ entry ∈ delimiters, entry.toList ≠ [character]
  notOperator : ∀ entry ∈ operators, entry.toList.head? ≠ some character

/-- Every character of an operator begins one. -/
theorem operators_heads : ∀ entry ∈ operators,
    entry.toList.all (fun character =>
      operators.any fun other => other.toList.head? == some character) =
        true := by
  decide

theorem delimiters_single : ∀ entry ∈ delimiters,
    entry.toList.all (fun character => entry.toList == [character]) =
      true := by
  decide

variable {character : Char}

theorem Stray.separator (stray : Stray character) : Separator character where
  notWord := stray.notWord
  notMark := by
    intro entry member inside
    rcases List.mem_append.1 member with operator | delimiter
    · have heads := List.all_eq_true.1 (operators_heads entry operator)
        character inside
      rcases List.any_eq_true.1 heads with ⟨other, listed, begins⟩
      exact stray.notOperator other listed (eq_of_beq begins)
    · have single := List.all_eq_true.1 (delimiters_single entry delimiter)
        character inside
      exact stray.notDelimiter entry delimiter (eq_of_beq single)

/-- No token begins with a stray character. -/
theorem Stray.munch (stray : Stray character) (rest : Text) :
    munch character rest = .alone .error [character] := by
  have noWord : isWordStart character = false :=
    Bool.eq_false_iff.2 fun starts =>
      stray.separator.ne_of_isWord (isWord_of_isWordStart starts) rfl
  have noDigit : character.isDigit = false :=
    Bool.eq_false_iff.2 fun digit =>
      stray.separator.ne_of_isWord (isWord_of_isDigit digit) rfl
  have heads : ∀ entry ∈ operators.map String.toList,
      entry.head?.any (fun first => first != character) = true := by
    have solid : ∀ word ∈ operators, word.toList.head?.isSome = true := by
      decide
    intro entry member
    rcases List.mem_map.1 member with ⟨word, listed, rfl⟩
    rcases Option.isSome_iff_exists.1 (solid word listed) with ⟨first, head⟩
    have other := stray.notOperator word listed
    rw [head] at other ⊢
    simpa using other
  have noDelimiter : character ∉ [',', ';', '(', ')'] := by
    have others := stray.notDelimiter
    simpa [delimiters, eq_comm] using others
  rw [munch_of_no_opener noWord noDigit stray.notQuote
      (Text.longest?_of_other heads (by simp) rest) noDelimiter,
    if_neg (by simp [stray.notBlank])]

end Grammar

namespace RuleTable

open Grammar

/-- A stray character between two lexemes is one more lexeme. -/
theorem lexemes_insert {source : Text} {left right : List Lexeme}
    (split : standard.lexemes source = left ++ right) {character : Char}
    (stray : Stray character)
    (ends : ∀ last ∈ left.getLast?,
      last.kind ≠ .functionName ∧ last.Finished) :
    standard.lexemes
        (Lexeme.texts left ++ character :: Lexeme.texts right) =
      left ++ { kind := .error, text := [character] } :: right := by
  have lexed := lexed_lexemes source
  rw [split] at lexed
  have stops : ∀ last ∈ left.getLast?, last.EndsBefore character :=
    fun last isLast => (ends last isLast).2.endsBefore stray.notBlank
  have before := lexed.left fun last isLast => (ends last isLast).1
  rw [before.append stray.separator stops, lexemes_munch, stray.munch]
  exact congrArg (left ++ _ :: ·) lexed.right

end RuleTable

/-- The end of a token, or the beginning of its source, lies between lexemes. -/
theorem exists_split {source : Text} {offset : Nat}
    (place : offset = 0 ∨ ∃ token ∈ (tokenize source).tokens,
      token.stop = offset ∧ token.kind ≠ .functionName ∧
        token.toLexeme.Finished) :
    ∃ left right, RuleTable.standard.lexemes source = left ++ right ∧
      Text.size (Lexeme.texts left) = offset ∧
      ∀ last ∈ left.getLast?,
        last.kind ≠ .functionName ∧ last.Finished := by
  rcases place with rfl | ⟨token, member, rfl, whole, finished⟩
  · exact ⟨[], _, rfl, rfl, nofun⟩
  · rw [tokens_tokenize] at member
    rcases List.getElem?_of_mem member with ⟨index, found⟩
    rcases Token.getElem?_layout found with ⟨lexeme, _, stop⟩
    rw [Nat.zero_add] at stop
    refine ⟨_, _, (List.take_append_drop (index + 1) _).symm, stop.symm, ?_⟩
    intro last isLast
    rw [← List.drop_zero (l := List.take _ _),
      getLast?_drop_take (Nat.zero_le index) lexeme] at isLast
    cases isLast
    exact ⟨whole, finished⟩

/--
A stray character at the beginning or behind a token is one error.  The tokens
before it are those that the source has there, and those behind it are those of
the source, moved by the size of the character.
-/
theorem tokenize_insert {source : Text} {character : Char} {offset : Nat}
    (stray : Grammar.Stray character)
    (place : offset = 0 ∨ ∃ token ∈ (tokenize source).tokens,
      token.stop = offset ∧ token.kind ≠ .functionName ∧
        token.toLexeme.Finished) :
    ∃ before behind inserted,
      (tokenize source).tokens = before ++ behind ∧
        (∀ token ∈ before, token.stop ≤ offset) ∧
        (∀ token ∈ behind, offset ≤ token.start) ∧
        Text.insert? offset character source = some inserted ∧
        (tokenize inserted).tokens =
          before ++
            { kind := .error, text := [character], start := offset } ::
              behind.map (Token.raise character.utf8Size) := by
  rcases exists_split place with ⟨left, right, split, rfl, ends⟩
  have whole : Lexeme.texts left ++ Lexeme.texts right = source := by
    rw [← Lexeme.texts_append, ← split, RuleTable.texts_lexemes]
  have insert := Text.insert?_size_append (Lexeme.texts left)
    (Lexeme.texts right) character
  rw [whole] at insert
  refine ⟨Token.layout 0 left,
    Token.layout (Text.size (Lexeme.texts left)) right, _, ?_, ?_, ?_, insert,
    ?_⟩
  · rw [tokens_tokenize, split, Token.layout_append, Nat.zero_add]
  · intro token member
    have within := (Token.bounds_of_mem_layout member).2
    rwa [Nat.zero_add] at within
  · intro token member
    exact (Token.bounds_of_mem_layout member).1
  · rw [tokens_tokenize, RuleTable.lexemes_insert split stray ends,
      Token.layout_append, Nat.zero_add, Token.layout_cons,
      Token.map_raise_layout, Text.size_cons, Text.size_nil, Nat.add_zero,
      Nat.add_comm character.utf8Size]

/-- A stray character of three bytes inside a word that is cut into two tokens. -/
theorem tokenize_insert_glued :
    Grammar.Stray '€' ∧
      (∃ token ∈ (tokenize "Listing".toList).tokens,
        token.stop = 4 ∧ token.kind ≠ .functionName ∧
          token.toLexeme.Finished) ∧
      ∃ before behind inserted,
        (tokenize "Listing".toList).tokens = before ++ behind ∧
          (∀ token ∈ before, token.stop ≤ 4) ∧
          (∀ token ∈ behind, 4 ≤ token.start) ∧
          Text.insert? 4 '€' "Listing".toList = some inserted ∧
          (tokenize inserted).tokens =
            before ++ { kind := .error, text := ['€'], start := 4 } ::
              behind.map (Token.raise 3) :=
  have stray : Grammar.Stray '€' :=
    ⟨by decide +kernel, by decide +kernel, by decide, by decide, by decide⟩
  have place : ∃ token ∈ (tokenize "Listing".toList).tokens,
      token.stop = 4 ∧ token.kind ≠ .functionName ∧
        token.toLexeme.Finished :=
    ⟨{ kind := .typeName, text := "List".toList, start := 0 },
      by decide +kernel, by decide, by decide, trivial⟩
  ⟨stray, place, tokenize_insert stray (.inr place)⟩

end BayesLex
