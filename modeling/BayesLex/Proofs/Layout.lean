import BayesLex.Proofs.Separators

/-!
# Layout carries no meaning

White space and comments may be replaced by any white space that begins with a
new line, and the other tokens stay what they are.

A new line is a separator, so the tokens before a piece of trivia do not notice
what stands in its place: `endsBefore_newline` says so of the last of them, also
when it is a string literal without a closing mark.  Behind the piece, the new
white space takes in what is white anyway and is skipped with it.
-/

namespace BayesLex

/-- A new line and white space behind it. -/
structure LineBreak where
  blanks : Text
  blank : ∀ character ∈ blanks, isBlank character = true

/-- The characters of a line break. -/
def LineBreak.text (lineBreak : LineBreak) : Text :=
  '\n' :: lineBreak.blanks

/-- The texts of some tokens, with a line break for each piece of trivia. -/
def Token.relay (breaks : Token → LineBreak) (tokens : List Token) : Text :=
  tokens.flatMap fun token =>
    if token.kind.isTrivia then (breaks token).text else token.text

namespace Token

variable {breaks : Token → LineBreak} {token : Token}

theorem relay_cons_of_trivia (trivia : token.kind.isTrivia = true)
    (tokens : List Token) :
    relay breaks (token :: tokens) =
      (breaks token).text ++ relay breaks tokens := by
  simp [relay, trivia]

theorem relay_cons_of_solid (solid : token.kind.isTrivia = false)
    (tokens : List Token) :
    relay breaks (token :: tokens) = token.text ++ relay breaks tokens := by
  simp [relay, solid]

end Token

/-- The lexemes other than white space and comments. -/
def Lexeme.significant (lexemes : List Lexeme) : List Lexeme :=
  lexemes.filter fun lexeme => !lexeme.kind.isTrivia

namespace Lexeme

@[simp]
theorem significant_append (left right : List Lexeme) :
    significant (left ++ right) = significant left ++ significant right :=
  List.filter_append left right

theorem significant_cons_of_trivia {lexeme : Lexeme}
    (trivia : lexeme.kind.isTrivia = true) (lexemes : List Lexeme) :
    significant (lexeme :: lexemes) = significant lexemes := by
  simp [significant, trivia]

theorem significant_cons_of_solid {lexeme : Lexeme}
    (solid : lexeme.kind.isTrivia = false) (lexemes : List Lexeme) :
    significant (lexeme :: lexemes) = lexeme :: significant lexemes := by
  simp [significant, solid]

theorem significant_eq_self {lexemes : List Lexeme}
    (solid : ∀ lexeme ∈ lexemes, lexeme.kind.isTrivia = false) :
    significant lexemes = lexemes :=
  List.filter_eq_self.2 fun lexeme member => by simp [solid lexeme member]

end Lexeme

namespace Grammar

open Vocabulary

theorem separator_newline : Separator '\n' where
  notWord := by decide
  notMark := by decide

theorem isBlank_eq_false_of_code {character : Char}
    (low : 48 ≤ character.toNat) (high : character.toNat < 123) :
    isBlank character = false := by
  have small : ∀ code < 123, 48 ≤ code →
      blankRanges.contains code = false := by
    decide
  exact small character.toNat high low

/-- Where white space begins there is all the white space that follows. -/
theorem munch_blank {character : Char} (blank : isBlank character = true)
    (rest : Text) :
    munch character rest =
      .alone .whitespace ((character :: rest).takeWhile isBlank) := by
  have other : ∀ visible, isBlank visible = false → visible ≠ character := by
    rintro visible solid rfl
    rw [solid] at blank
    cases blank
  have noWord : isWordStart character = false := by
    refine Bool.eq_false_iff.2 fun starts => other character ?_ rfl
    have code := (isWordStart_iff character).1 starts
    exact isBlank_eq_false_of_code (by omega) (by omega)
  have noDigit : character.isDigit = false := by
    refine Bool.eq_false_iff.2 fun digit => other character ?_ rfl
    have code := (isDigit_iff character).1 digit
    exact isBlank_eq_false_of_code (by omega) (by omega)
  have heads : ∀ entry ∈ operators.map String.toList,
      entry.head?.any (fun first => !isBlank first) = true := by
    decide
  have noDelimiter : character ∉ [',', ';', '(', ')'] := by
    have solid : [',', ';', '(', ')'].any isBlank = false := by decide
    exact fun member => List.any_eq_false.1 solid character member blank
  rw [munch_of_no_opener noWord noDigit (other '"' (by decide)).symm
      (Text.longest?_of_other heads (by simp [blank]) rest) noDelimiter,
    if_pos blank]

end Grammar

namespace RuleTable

open Grammar

theorem lexemes_blank {character : Char} (blank : isBlank character = true)
    (rest : Text) :
    standard.lexemes (character :: rest) =
      { kind := .whitespace, text := (character :: rest).takeWhile isBlank } ::
        standard.lexemes ((character :: rest).dropWhile isBlank) := by
  rw [lexemes_munch, munch_blank blank, Match.text_alone,
    Text.drop_length_takeWhile]
  rfl

/-- White space at the beginning of a text is not significant. -/
theorem significant_dropWhile (text : Text) :
    Lexeme.significant (standard.lexemes (text.dropWhile isBlank)) =
      Lexeme.significant (standard.lexemes text) := by
  cases text with
  | nil => rfl
  | cons character rest =>
      by_cases blank : isBlank character = true
      · rw [lexemes_blank blank, Lexeme.significant_cons_of_trivia rfl]
      · rw [List.dropWhile_cons_of_neg blank]

theorem significant_lineBreak (lineBreak : LineBreak) (more : Text) :
    Lexeme.significant (standard.lexemes (lineBreak.text ++ more)) =
      Lexeme.significant (standard.lexemes more) := by
  have blank : ∀ character ∈ lineBreak.text, isBlank character = true :=
    List.forall_mem_cons.2 ⟨by decide, lineBreak.blank⟩
  rw [← significant_dropWhile, List.dropWhile_append_of_pos blank,
    significant_dropWhile]

/-- No trivia stands behind the name of a function. -/
theorem Lexed.kind_ne_functionName {lexeme trivia : Lexeme}
    {later : List Lexeme} (lexed : Lexed (lexeme :: trivia :: later))
    (isTrivia : trivia.kind.isTrivia = true) :
    lexeme.kind ≠ .functionName := by
  rcases lexed.exists_munch with ⟨character, rest, _, rfl, behind⟩
  rcases others_munch character rest with ⟨_, other⟩ | ⟨_, call⟩
  · exact other
  · rw [call, List.cons_prefix_cons] at behind
    rw [← behind.1] at isTrivia
    cases isTrivia

/-- The last of some lexemes before trivia is no name of a function. -/
theorem Lexed.getLast?_ne_functionName {before later : List Lexeme}
    {trivia : Lexeme} (lexed : Lexed (before ++ trivia :: later))
    (isTrivia : trivia.kind.isTrivia = true) :
    ∀ last ∈ before.getLast?, last.kind ≠ .functionName := by
  intro last isLast
  rcases List.getLast?_eq_some_iff.1 isLast with ⟨earlier, rfl⟩
  rw [List.append_assoc, List.singleton_append] at lexed
  exact lexed.right.kind_ne_functionName isTrivia

/--
A lexeme other than trivia behind which another one follows ends before a new
line.  If it is a string literal without a closing mark, it has ended at one.
-/
theorem Lexed.endsBefore_newline {lexeme next : Lexeme}
    {later : List Lexeme} (lexed : Lexed (lexeme :: next :: later))
    (solid : lexeme.kind.isTrivia = false) : lexeme.EndsBefore '\n' := by
  have behind : Lexeme.texts (next :: later) ≠ [] := by
    simp [lexed.text_ne_nil next (by simp)]
  intro scanner found more
  rcases lexeme with ⟨kind, text⟩
  cases kind with
  | stringLiteral =>
      cases found
      dsimp only
      cases text with
      | nil => exact Nat.le_of_eq (Scanner.count_string_of_ne (by decide) _)
      | cons character body =>
          by_cases quote : character = '"'
          · subst quote
            rcases lexed.exists_munch with ⟨_, rest, texts, first, _⟩
            rw [Lexeme.texts_cons, List.cons_append] at texts
            rcases List.cons.inj texts with ⟨rfl, rfl⟩
            rw [← bite_standard, bite_string] at first
            exact Scanner.count_string_newline (congrArg Lexeme.text first)
              behind more
          · rw [List.cons_append, Scanner.count_string_of_ne quote]
            exact Nat.zero_le _
  | whitespace | lineComment | blockComment => cases solid
  | _ => cases found

/-- Lexemes before a piece of trivia stay when a new line begins there. -/
theorem Lexed.append_newline {before later : List Lexeme} {trivia : Lexeme}
    (lexed : Lexed (before ++ trivia :: later))
    (isTrivia : trivia.kind.isTrivia = true)
    (solid : ∀ lexeme ∈ before, lexeme.kind.isTrivia = false)
    (more : Text) :
    standard.lexemes (Lexeme.texts before ++ '\n' :: more) =
      before ++ standard.lexemes ('\n' :: more) := by
  have whole := lexed.getLast?_ne_functionName isTrivia
  have ends : ∀ last ∈ before.getLast?, last.EndsBefore '\n' := by
    intro last isLast
    have notTrivia := solid last (List.mem_of_getLast? isLast)
    rcases List.getLast?_eq_some_iff.1 isLast with ⟨earlier, rfl⟩
    rw [List.append_assoc, List.singleton_append] at lexed
    exact lexed.right.endsBefore_newline notTrivia
  exact (lexed.left whole).append separator_newline ends more

/--
The significant lexemes before some others, and of these, stay when every piece
of trivia among the others becomes a line break.
-/
theorem significant_relay (breaks : Token → LineBreak)
    (before lexemes : List Lexeme) (start : Nat)
    (solid : ∀ lexeme ∈ before, lexeme.kind.isTrivia = false)
    (lexed : Lexed (before ++ lexemes)) :
    Lexeme.significant (standard.lexemes
        (Lexeme.texts before ++
          Token.relay breaks (Token.layout start lexemes))) =
      before ++ Lexeme.significant lexemes := by
  induction lexemes generalizing before start with
  | nil =>
      rw [List.append_nil] at lexed
      rw [Token.layout_nil, Token.relay, List.flatMap_nil, List.append_nil,
        show _ = before from lexed, Lexeme.significant_eq_self solid]
      exact (List.append_nil before).symm
  | cons lexeme lexemes hypothesis =>
      have split : before ++ lexeme :: lexemes =
          before ++ [lexeme] ++ lexemes := by
        rw [List.append_assoc, List.singleton_append]
      rw [Token.layout_cons]
      cases trivia : lexeme.kind.isTrivia with
      | true =>
          have line := lexed.append_newline trivia solid
          rw [split] at lexed
          -- the scan starts anew behind the line break
          have later := hypothesis [] (start + Text.size lexeme.text) nofun
            lexed.right
          rw [Token.relay_cons_of_trivia trivia, LineBreak.text,
            List.cons_append, line, Lexeme.significant_append,
            Lexeme.significant_eq_self solid, ← List.cons_append,
            ← LineBreak.text, significant_lineBreak,
            Lexeme.significant_cons_of_trivia trivia]
          exact congrArg (before ++ ·) later
      | false =>
          have solidToo : ∀ other ∈ before ++ [lexeme],
              other.kind.isTrivia = false :=
            List.forall_mem_append.2 ⟨solid, List.forall_mem_singleton.2 trivia⟩
          rw [split] at lexed
          have later := hypothesis (before ++ [lexeme])
            (start + Text.size lexeme.text) solidToo lexed
          rw [Lexeme.texts_append, Lexeme.texts_cons, Lexeme.texts_nil,
            List.append_nil, List.append_assoc, List.append_assoc] at later
          rw [Token.relay_cons_of_solid trivia,
            Lexeme.significant_cons_of_solid trivia]
          exact later

end RuleTable

/-- The source of a stream, with a line break for each piece of trivia. -/
def TokenStream.relaid (stream : TokenStream) (breaks : Token → LineBreak) :
    Text :=
  Token.relay breaks stream.tokens

theorem map_toLexeme_significant (source : Text) :
    (tokenize source).significant.map Token.toLexeme =
      Lexeme.significant (RuleTable.standard.lexemes source) := by
  have lexemes : (tokenize source).tokens.map Token.toLexeme =
      RuleTable.standard.lexemes source := by
    rw [tokens_tokenize, Token.map_toLexeme_layout]
  rw [← lexemes, Lexeme.significant, List.filter_map]
  rfl

/--
Any line breaks may take the places of white space and comments in a source:
the significant tokens keep their kinds and their texts.
-/
theorem significant_relaid (source : Text) (breaks : Token → LineBreak) :
    (tokenize ((tokenize source).relaid breaks)).significant.map
        Token.toLexeme =
      (tokenize source).significant.map Token.toLexeme := by
  have relaid := RuleTable.significant_relay breaks [] _ 0 nofun
    (RuleTable.lexed_lexemes source)
  rw [map_toLexeme_significant, map_toLexeme_significant, TokenStream.relaid,
    tokens_tokenize]
  exact relaid

end BayesLex
