import BayesLex.Proofs.Locality

/-!
# Separators

A separator is a character that occurs neither in a word nor in an operator or
a delimiter.  No match runs over one, apart from a literal, a comment or white
space that has not come to its end: `Lexeme.EndsBefore` says that it has.

So a text keeps its lexemes when a separator and anything else follow it, and
the separator begins a lexeme of its own: `RuleTable.lexemes_append`.  For
lexemes that are found again in their own texts, which those of a source and
all of its ends are, the same is told by `RuleTable.Lexed.append`.
-/

namespace BayesLex

/-- The scanner that finds the tokens of a kind, if there is one. -/
def Kind.scanner? : Kind → Option Scanner
  | stringLiteral => some .string
  | lineComment => some .lineComment
  | blockComment => some .blockComment
  | whitespace => some .whitespace
  | _ => none

/-- The scanner of a lexeme does not read on when a character follows it. -/
def Lexeme.EndsBefore (lexeme : Lexeme) (separator : Char) : Prop :=
  ∀ scanner, lexeme.kind.scanner? = some scanner → ∀ more,
    scanner.count (lexeme.text ++ separator :: more) ≤ lexeme.text.length

/-- A match that takes a whole text ends before a character that follows. -/
def Match.EndsBefore (found : Match) (text : Text) (separator : Char) : Prop :=
  found.text = text → found.first.EndsBefore separator

/--
What a scanner finds at the beginning of a text does not run over the end of
that text, if it ends before the character that follows there.
-/
theorem Scanner.count_le_of_ends {scanner : Scanner} {text : Text}
    {separator : Char} (begins : 0 < scanner.count text)
    (ends : scanner.scan text = text → ∀ more,
      scanner.count (text ++ separator :: more) ≤ text.length)
    (more : Text) :
    scanner.count (text ++ separator :: more) ≤ text.length := by
  by_cases inside : scanner.count text < text.length
  · rw [count_append begins inside]
    exact Nat.le_of_lt inside
  · exact ends (List.take_of_length_le (Nat.le_of_not_lt inside)) more

namespace Grammar

open Vocabulary

/-- A character that occurs in no word, no operator and no delimiter. -/
structure Separator (character : Char) : Prop where
  notWord : isWord character = false
  notMark : ∀ entry ∈ operators ++ delimiters, character ∉ entry.toList

/-- The code points of the digits. -/
theorem isDigit_iff (character : Char) :
    character.isDigit = true ↔
      48 ≤ character.toNat ∧ character.toNat ≤ 57 := by
  simp only [Char.isDigit, Bool.and_eq_true, ge_iff_le, decide_eq_true_eq,
    UInt32.le_iff_toNat_le, Char.toNat_val, Char.reduceVal,
    UInt32.reduceToNat]

theorem isWord_of_isDigit {character : Char}
    (digit : character.isDigit = true) : isWord character = true := by
  have small : ∀ code < 58, 48 ≤ code →
      wordRanges.contains code = true := by
    decide
  have code := (isDigit_iff character).1 digit
  exact small character.toNat (by omega) code.1

theorem Separator.ne_of_isWord {separator character : Char}
    (separates : Separator separator) (word : isWord character = true) :
    separator ≠ character := by
  rintro rfl
  rw [separates.notWord] at word
  cases word

theorem Separator.ne_of_mem {separator character : Char}
    (separates : Separator separator) (entry : String)
    (member : entry ∈ operators ++ delimiters)
    (inside : character ∈ entry.toList) : separator ≠ character := by
  rintro rfl
  exact separates.notMark entry member inside

theorem types_isWord : ∀ entry ∈ types.map String.toList,
    entry.all isWord = true := by
  decide

/-- What begins with a word holds word characters and a parenthesis only. -/
theorem mem_text_word {text : Text} {character : Char}
    (member : character ∈ (word text).text) :
    isWord character = true ∨ character = '(' := by
  dsimp only [word] at member
  split at member
  · simp only [Match.text, Match.lexemes, Lexeme.texts_cons,
      Lexeme.texts_nil, List.append_nil, List.mem_append,
      List.mem_singleton] at member
    rcases member with inside | parenthesis
    · exact .inl (Text.sort_of_mem_takeWhile inside)
    · exact .inr parenthesis
  · left
    split at member
    · rename_i entry found
      rw [Match.text_alone] at member
      have listed := (Text.mem_of_longest?_eq_some found).1
      exact List.all_eq_true.1 (types_isWord entry listed) character member
    · have inside : character ∈ text.takeWhile isWord := by
        split at member
        · rwa [Match.text_alone] at member
        · split at member
          · rwa [Match.text_alone] at member
          · rwa [Match.text_alone] at member
      exact Text.sort_of_mem_takeWhile inside

/-- What begins with a digit holds digits and a point only. -/
theorem mem_text_number {text : Text} {character : Char}
    (member : character ∈ (number text).text) :
    character.isDigit = true ∨ character = '.' := by
  dsimp only [number] at member
  split at member
  · rw [Match.text_alone, List.mem_append, List.mem_cons] at member
    rcases member with whole | point | fraction
    · exact .inl (Text.sort_of_mem_takeWhile whole)
    · exact .inr point
    · exact .inl (Text.sort_of_mem_takeWhile fraction)
  · rw [Match.text_alone] at member
    exact .inl (Text.sort_of_mem_takeWhile member)

theorem kind_word_not_mem (text : Text) :
    (word text).first.kind ∉ [Kind.error, .whitespace] := by
  dsimp only [word]
  split
  · simp
  · split
    · simp [Match.alone]
    · split
      · simp [Match.alone]
      · split
        · simp [Match.alone]
        · simp [Match.alone]

theorem kind_number_not_mem (text : Text) :
    (number text).first.kind ∉ [Kind.error, .whitespace] := by
  dsimp only [number]
  split
  · simp [Match.alone]
  · simp [Match.alone]

variable {separator character : Char} {rest : Text}

theorem Separator.not_mem_word (separates : Separator separator)
    (text : Text) : separator ∉ (word text).text := by
  intro member
  rcases mem_text_word member with inside | parenthesis
  · exact separates.ne_of_isWord inside rfl
  · exact separates.ne_of_mem "(" (by decide) (by decide)
      parenthesis

theorem Separator.not_mem_number (separates : Separator separator)
    (text : Text) : separator ∉ (number text).text := by
  intro member
  rcases mem_text_number member with digit | point
  · exact separates.ne_of_isWord (isWord_of_isDigit digit) rfl
  · exact separates.ne_of_mem "." (by decide) (by decide) point

theorem Separator.not_mem_operator (separates : Separator separator) :
    ∀ entry ∈ operators.map String.toList, separator ∉ entry := by
  intro entry member inside
  rcases List.mem_map.1 member with ⟨word, listed, rfl⟩
  exact separates.notMark word (List.mem_append_left _ listed) inside

/-- What begins with a character that begins no other token. -/
theorem munch_of_no_opener (noWord : isWordStart character = false)
    (noDigit : character.isDigit = false) (noQuote : character ≠ '"')
    (noOperator : Text.longest? (operators.map String.toList)
      (character :: rest) = none)
    (noDelimiter : character ∉ [',', ';', '(', ')']) :
    munch character rest =
      if isBlank character then
        .alone .whitespace ((character :: rest).takeWhile isBlank)
      else
        .alone .error [character] := by
  have noSlash : character ≠ '/' := by
    rintro rfl
    exact Text.not_prefix_of_longest?_eq_none noOperator ['/'] (by decide)
      (List.prefix_append ['/'] rest)
  have noComment : ∀ second, ¬ ['/', second] <+: character :: rest :=
    fun _ begins => noSlash (List.cons_prefix_cons.1 begins).1.symm
  rw [munch, if_neg (by simp [noWord]), if_neg (by simp [noDigit]), symbol,
    if_neg (noComment '/'), if_neg (noComment '*'), if_neg noQuote, mark,
    noOperator]
  exact if_neg noDelimiter

/-- Errors and white space begin with characters that begin nothing else. -/
theorem munch_eq_mark
    (found : (munch character rest).first.kind ∈ [Kind.error, .whitespace]) :
    munch character rest = mark character (character :: rest) := by
  unfold munch at found ⊢
  split at found
  · exact absurd found (kind_word_not_mem _)
  · rename_i noWord
    split at found
    · exact absurd found (kind_number_not_mem _)
    · rename_i noDigit
      rw [if_neg noWord, if_neg noDigit]
      unfold symbol at found ⊢
      split at found
      · simp [Match.alone] at found
      · split at found
        · simp [Match.alone] at found
        · split at found
          · simp [Match.alone] at found
          · rename_i noLine noBlock noQuote
            rw [if_neg noLine, if_neg noBlock, if_neg noQuote]

/-- The longest operator is the same before a separator. -/
theorem Separator.longest?_operators (separates : Separator separator)
    (text more : Text) :
    Text.longest? (operators.map String.toList) (text ++ separator :: more) =
      Text.longest? (operators.map String.toList) text := by
  have inside : ∀ entry, Text.longest? (operators.map String.toList)
      (text ++ separator :: more) = some entry →
        entry.length ≤ text.length := by
    intro entry found
    rcases Text.mem_of_longest?_eq_some found with ⟨member, begins⟩
    exact (Text.prefix_of_not_mem begins
      (separates.not_mem_operator entry member)).length_le
  have cut := Text.longest?_take inside
  rw [List.take_left] at cut
  exact cut.symm

/-- The opener of a comment is the same before a separator. -/
theorem Separator.opens_iff (separates : Separator separator)
    {second : Char} (comment : second = '/' ∨ second = '*')
    (text more : Text) :
    ['/', second] <+: text ++ separator :: more ↔ ['/', second] <+: text := by
  have slash : separator ≠ '/' :=
    separates.ne_of_mem "/" (by decide) (by decide)
  have star : separator ≠ '*' :=
    separates.ne_of_mem "*" (by decide) (by decide)
  have missing : separator ∉ ['/', second] := by
    rcases comment with rfl | rfl
    · simp [slash]
    · simp [slash, star]
  exact ⟨fun begins => Text.prefix_of_not_mem begins missing,
    fun begins => begins.trans (List.prefix_append _ _)⟩

/-- What a scanner finds does not run over a separator before which it ends. -/
theorem length_scan_le {scanner : Scanner} {kind : Kind} {text : Text}
    (found : kind.scanner? = some scanner) (begins : 0 < scanner.count text)
    (ends : (Match.alone kind (scanner.scan text)).EndsBefore text separator)
    (more : Text) :
    (Match.alone kind (scanner.scan (text ++ separator :: more))).text.length ≤
      text.length := by
  rw [Match.text_alone]
  refine Nat.le_trans (List.length_take_le _ _)
    (Scanner.count_le_of_ends begins (fun whole more => ?_) more)
  have stops := ends (by rw [Match.text_alone, whole]) scanner found more
  rw [Match.alone, whole] at stops
  exact stops

theorem length_mark_le (separates : Separator separator)
    (ends : (mark character (character :: rest)).EndsBefore
      (character :: rest) separator)
    (more : Text) :
    (mark character (character :: rest ++ separator :: more)).text.length ≤
      (character :: rest).length := by
  unfold mark at ends ⊢
  rw [separates.longest?_operators]
  cases found : Text.longest? (operators.map String.toList)
    (character :: rest) with
  | some entry =>
      rw [Match.text_alone]
      exact (Text.mem_of_longest?_eq_some found).2.length_le
  | none =>
      simp only [found] at ends ⊢
      split
      · simp
      · rename_i noDelimiter
        rw [if_neg noDelimiter] at ends
        split
        · rename_i blank
          rw [if_pos blank] at ends
          simp only [← Scanner.scan_whitespace] at ends ⊢
          exact length_scan_le rfl (by simp [Scanner.count, blank]) ends more
        · simp

theorem length_symbol_le (separates : Separator separator)
    (ends : (symbol character (character :: rest)).EndsBefore
      (character :: rest) separator)
    (more : Text) :
    (symbol character (character :: rest ++ separator :: more)).text.length ≤
      (character :: rest).length := by
  unfold symbol at ends ⊢
  simp only [separates.opens_iff (.inl rfl), separates.opens_iff (.inr rfl)]
  split
  · rename_i line
    rw [if_pos line] at ends
    exact length_scan_le rfl
      (Nat.zero_lt_of_lt (Scanner.two_le_count_lineComment line)) ends more
  · rename_i noLine
    rw [if_neg noLine] at ends
    split
    · rename_i block
      rw [if_pos block] at ends
      exact length_scan_le rfl
        (Nat.zero_lt_of_lt (Scanner.two_le_count_blockComment block)) ends more
    · rename_i noBlock
      rw [if_neg noBlock] at ends
      split
      · rename_i quote
        subst quote
        rw [if_pos rfl] at ends
        exact length_scan_le rfl (Scanner.count_string_pos rest) ends more
      · rename_i noQuote
        rw [if_neg noQuote] at ends
        exact length_mark_le separates ends more

/-- No match runs over a separator before which it ends. -/
theorem length_munch_le (separates : Separator separator)
    (ends : (munch character rest).EndsBefore (character :: rest) separator)
    (more : Text) :
    (munch character (rest ++ separator :: more)).text.length ≤
      (character :: rest).length := by
  have begins :=
    (RuleTable.covers_munch character (rest ++ separator :: more)).begins
  rw [← List.cons_append] at begins
  unfold munch at ends begins ⊢
  split
  · rename_i starts
    rw [if_pos starts] at begins
    exact (Text.prefix_of_not_mem begins (separates.not_mem_word _)).length_le
  · rename_i noWord
    rw [if_neg noWord] at ends begins
    split
    · rename_i digit
      rw [if_pos digit] at begins
      exact (Text.prefix_of_not_mem begins
        (separates.not_mem_number _)).length_le
    · rename_i noDigit
      rw [if_neg noDigit] at ends
      exact length_symbol_le separates ends more

/-- What a text begins with is the same before a separator. -/
theorem munch_append (separates : Separator separator)
    (ends : (munch character rest).EndsBefore (character :: rest) separator)
    (more : Text) :
    munch character (rest ++ separator :: more) = munch character rest := by
  have cut := munch_take (length_munch_le separates ends more)
  rw [List.take_left] at cut
  exact cut.symm

end Grammar

namespace RuleTable

open Grammar

/--
A text keeps its lexemes before a separator, if the last one ends there, and a
lexeme begins with the separator.
-/
theorem lexemes_append {text : Text} {separator : Char}
    (separates : Separator separator)
    (ends : ∀ last ∈ (standard.lexemes text).getLast?,
      last.EndsBefore separator)
    (more : Text) :
    standard.lexemes (text ++ separator :: more) =
      standard.lexemes text ++ standard.lexemes (separator :: more) := by
  fun_induction standard.lexemes text with
  | case1 => rfl
  | case2 character rest hypothesis =>
      rw [bite_standard] at hypothesis ends ⊢
      have covers := covers_munch character rest
      have first : (munch character rest).EndsBefore (character :: rest)
          separator := by
        intro whole
        rw [whole, List.drop_length, lexemes_nil, List.append_nil] at ends
        rcases others_munch character rest with ⟨alone, _⟩ | ⟨call, _⟩
        · exact ends _ (by rw [Match.lexemes, alone]; rfl)
        · -- no scanner finds the name of a function
          intro scanner found
          rw [call] at found
          cases found
      have later : ∀ last ∈ (standard.lexemes ((character :: rest).drop
          (munch character rest).text.length)).getLast?,
          last.EndsBefore separator := by
        intro last isLast
        apply ends last
        rw [List.getLast?_append, isLast]
        rfl
      rw [List.cons_append, lexemes_munch, munch_append separates first,
        ← List.cons_append,
        List.drop_append_of_le_length covers.begins.length_le,
        hypothesis later, List.append_assoc]

/-- Lexemes that are found again in their own texts. -/
def Lexed (lexemes : List Lexeme) : Prop :=
  standard.lexemes (Lexeme.texts lexemes) = lexemes

theorem lexed_lexemes (text : Text) : Lexed (standard.lexemes text) := by
  rw [Lexed, texts_lexemes]

theorem Lexed.right {left right : List Lexeme}
    (lexed : Lexed (left ++ right)) : Lexed right :=
  lexemes_texts_right lexed

theorem Lexed.left {left right : List Lexeme}
    (lexed : Lexed (left ++ right))
    (whole : ∀ last ∈ left.getLast?, last.kind ≠ .functionName) : Lexed left :=
  lexemes_texts_left lexed whole

theorem Lexed.text_ne_nil {lexemes : List Lexeme} (lexed : Lexed lexemes) :
    ∀ lexeme ∈ lexemes, lexeme.text ≠ [] := by
  rw [← show _ = lexemes from lexed]
  exact standard.lexemes_solid _

/-- A lexeme is what its own text and the texts behind it begin with. -/
theorem Lexed.exists_munch {lexeme : Lexeme} {later : List Lexeme}
    (lexed : Lexed (lexeme :: later)) :
    ∃ character rest,
      Lexeme.texts (lexeme :: later) = character :: rest ∧
        (munch character rest).first = lexeme ∧
        (munch character rest).others <+: later := by
  unfold Lexed at lexed
  cases texts : Lexeme.texts (lexeme :: later) with
  | nil =>
      rw [texts, lexemes_nil] at lexed
      cases lexed
  | cons character rest =>
      rw [texts, lexemes_munch, Match.lexemes, List.cons_append] at lexed
      rcases List.cons.inj lexed with ⟨first, others⟩
      exact ⟨character, rest, rfl, first, _, others⟩

/-- Lexemes stay in front of a separator before which the last one ends. -/
theorem Lexed.append {lexemes : List Lexeme} (lexed : Lexed lexemes)
    {separator : Char} (separates : Separator separator)
    (ends : ∀ last ∈ lexemes.getLast?, last.EndsBefore separator)
    (more : Text) :
    standard.lexemes (Lexeme.texts lexemes ++ separator :: more) =
      lexemes ++ standard.lexemes (separator :: more) := by
  unfold Lexed at lexed
  rw [← lexed] at ends
  rw [lexemes_append separates ends, lexed]

end RuleTable

end BayesLex
