import BayesLex.Proofs.Checking
import BayesLex.Proofs.Layout

/-!
# Answers to the lines of a text

A conversation answers a text line by line.  A line ends behind a line feed,
which is the last character of a token or lies in white space, unless some other
token runs over the end of a line.  In the first case the tokens before the cut
and behind it stay what they are; in the second the white space is cut in two,
which carries no meaning.  `RuleTable.significant_append_line` tells this of one
line, and `RuleTable.significant_linesFrom` of all of them.
-/

namespace BayesLex

/-- Only white space runs over the end of a line. -/
def Lexeme.Spaced (lexemes : List Lexeme) : Prop :=
  ∀ lexeme ∈ lexemes, '\n' ∈ lexeme.text.dropLast → lexeme.kind = .whitespace

namespace Lexeme

/-- A character of the texts of some lexemes stands in one of them. -/
theorem exists_around {lexemes : List Lexeme} {front rest : Text}
    {character : Char} (split : texts lexemes = front ++ character :: rest) :
    ∃ left lexeme right before after,
      lexemes = left ++ lexeme :: right ∧
        lexeme.text = before ++ character :: after ∧
        front = texts left ++ before ∧ rest = after ++ texts right := by
  induction lexemes generalizing front with
  | nil => simp at split
  | cons lexeme lexemes hypothesis =>
      have place : (∃ more, front = lexeme.text ++ more ∧
            texts lexemes = more ++ character :: rest) ∨
          ∃ after, lexeme.text = front ++ character :: after ∧
            rest = after ++ texts lexemes := by
        rw [texts_cons] at split
        rcases List.append_eq_append_iff.1 split with
          ⟨more, begins, later⟩ | ⟨after, text, later⟩
        · exact .inl ⟨more, begins, later⟩
        · cases after with
          | nil =>
              rw [List.append_nil] at text
              exact .inl ⟨[], by rw [text, List.append_nil], later.symm⟩
          | cons first after =>
              rcases List.cons.inj later with ⟨rfl, rfl⟩
              exact .inr ⟨after, text, rfl⟩
      rcases place with ⟨more, rfl, later⟩ | ⟨after, text, rfl⟩
      · rcases hypothesis later with
          ⟨left, inner, right, before, after, rfl, text, rfl, rfl⟩
        exact ⟨lexeme :: left, inner, right, before, after, rfl, text,
          by rw [texts_cons, List.append_assoc], rfl⟩
      · exact ⟨[], lexeme, lexemes, front, after, rfl, text, rfl, rfl⟩

end Lexeme

namespace Grammar

open Vocabulary

variable {character : Char} {rest text : Text}

theorem mark_of_whitespace
    (white : (mark character text).first.kind = .whitespace) :
    isBlank character = true := by
  unfold mark at white
  split at white
  · cases white
  · split at white
    · cases white
    · split at white
      · assumption
      · cases white

/-- What is white space begins with a blank. -/
theorem munch_of_whitespace
    (white : (munch character rest).first.kind = .whitespace) :
    isBlank character = true := by
  have marked : munch character rest = mark character (character :: rest) :=
    munch_eq_mark (by rw [white]; decide)
  rw [marked] at white
  exact mark_of_whitespace white

/-- The name of a function holds no separator. -/
theorem Separator.not_mem_functionName {separator : Char}
    (separates : Separator separator)
    (name : (munch character rest).first.kind = .functionName) :
    separator ∉ (munch character rest).first.text := by
  unfold munch at name ⊢
  split at name
  · rename_i starts
    rw [if_pos starts]
    intro member
    exact separates.not_mem_word _ (List.mem_append_left _ member)
  · split at name
    · exact absurd name (others_number _).2
    · exact absurd name (others_symbol _ _).2

end Grammar

namespace RuleTable

open Grammar

variable {lexeme : Lexeme} {later : List Lexeme}

/-- White space holds blanks only, and all that stand there. -/
theorem Lexed.whitespace (lexed : Lexed (lexeme :: later))
    (white : lexeme.kind = .whitespace) :
    (∀ character ∈ lexeme.text, isBlank character = true) ∧
      (Lexeme.texts later).head?.any isBlank = false := by
  rcases lexed.exists_munch with ⟨character, rest, texts, rfl, _⟩
  have blank := munch_of_whitespace white
  rw [munch_blank blank] at texts ⊢
  have behind : Lexeme.texts later = (character :: rest).dropWhile isBlank := by
    apply List.append_cancel_left
    rw [List.takeWhile_append_dropWhile]
    exact (Lexeme.texts_cons _ _).symm.trans texts
  rw [behind]
  exact ⟨fun _ => Text.sort_of_mem_takeWhile, Text.head?_dropWhile _ _⟩

/-- Blanks in front of something else are white space. -/
theorem lexemes_blanks {blanks more : Text} (solid : blanks ≠ [])
    (blank : ∀ character ∈ blanks, isBlank character = true)
    (stop : more.head?.any isBlank = false) :
    standard.lexemes (blanks ++ more) =
      { kind := .whitespace, text := blanks } :: standard.lexemes more := by
  cases blanks with
  | nil => exact absurd rfl solid
  | cons character blanks =>
      have whole := Text.takeWhile_append_of_stop blank stop
      have behind := Text.dropWhile_append_of_stop blank stop
      rw [List.cons_append] at whole behind ⊢
      rw [lexemes_blank (blank character (List.mem_cons_self ..)), whole,
        behind]

/-- A lexeme that holds a line feed is not the name of a function. -/
theorem Lexed.kind_ne_of_newline (lexed : Lexed (lexeme :: later))
    (newline : '\n' ∈ lexeme.text) : lexeme.kind ≠ .functionName := by
  rcases lexed.exists_munch with ⟨character, rest, _, rfl, _⟩
  intro name
  exact separator_newline.not_mem_functionName name newline

variable {left right : List Lexeme} {before after : Text}

/-- A cut behind a lexeme that ends with a line feed leaves all lexemes. -/
theorem Lexed.lexemes_line (lexed : Lexed (left ++ lexeme :: right))
    (ends : lexeme.text = before ++ ['\n']) :
    standard.lexemes (Lexeme.texts left ++ before ++ ['\n']) =
        left ++ [lexeme] ∧
      standard.lexemes (Lexeme.texts right) = right := by
  have kind : lexeme.kind ≠ .functionName :=
    lexed.right.kind_ne_of_newline (by rw [ends]; simp)
  have line : Lexeme.texts left ++ before ++ ['\n'] =
      Lexeme.texts (left ++ [lexeme]) := by
    rw [Lexeme.texts_append, Lexeme.texts_cons, Lexeme.texts_nil,
      List.append_nil, ends, List.append_assoc]
  rw [← List.singleton_append, ← List.append_assoc] at lexed
  refine ⟨?_, lexed.right⟩
  rw [line]
  apply lexed.left
  rw [List.getLast?_concat]
  rintro _ ⟨⟩
  exact kind

/-- A cut through white space leaves the lexemes on both sides of it. -/
theorem Lexed.lexemes_blank_line (lexed : Lexed (left ++ lexeme :: right))
    (white : lexeme.kind = .whitespace)
    (inside : lexeme.text = before ++ '\n' :: after) (more : after ≠ []) :
    standard.lexemes (Lexeme.texts left ++ before ++ ['\n']) =
        left ++ [{ kind := .whitespace, text := before ++ ['\n'] }] ∧
      standard.lexemes (after ++ Lexeme.texts right) =
        { kind := .whitespace, text := after } :: right := by
  have split : lexeme.text = before ++ ['\n'] ++ after := by
    rw [inside, List.append_assoc, List.singleton_append]
  have suffix : Lexed (lexeme :: right) := lexed.right
  rcases suffix.whitespace white with ⟨blank, stop⟩
  rw [split] at blank
  rcases List.forall_mem_append.1 blank with ⟨blankBefore, blankAfter⟩
  constructor
  · have begins : before ++ ['\n'] <+: Lexeme.texts (lexeme :: right) := by
      rw [Lexeme.texts_cons, split, List.append_assoc]
      exact List.prefix_append _ _
    have whole := lexed.getLast?_ne_functionName (by rw [white]; rfl)
    have line := @lexemes_blanks _ [] (by simp) blankBefore rfl
    rw [List.append_nil, lexemes_nil] at line
    rw [List.append_assoc, lexemes_texts_append lexed whole begins, line]
  · rw [← List.singleton_append] at suffix
    rw [lexemes_blanks more blankAfter stop, suffix.right]

/--
Where only white space runs over the end of a line, a text can be cut behind a
line feed: the significant lexemes stay, and the same holds of what follows.
-/
theorem significant_append_line {front rest : Text}
    (spaced : Lexeme.Spaced (standard.lexemes (front ++ '\n' :: rest))) :
    Lexeme.significant (standard.lexemes (front ++ '\n' :: rest)) =
        Lexeme.significant (standard.lexemes (front ++ ['\n'])) ++
          Lexeme.significant (standard.lexemes rest) ∧
      Lexeme.Spaced (standard.lexemes rest) := by
  have lexed := lexed_lexemes (front ++ '\n' :: rest)
  have texts := standard.texts_lexemes (front ++ '\n' :: rest)
  rcases Lexeme.exists_around texts with
    ⟨left, lexeme, right, before, after, split, inside, rfl, rfl⟩
  rw [split] at lexed spaced ⊢
  have spacedRight : Lexeme.Spaced right := fun other member =>
    spaced other (List.mem_append_right _ (List.mem_cons_of_mem _ member))
  cases after with
  | nil =>
      rcases lexed.lexemes_line inside with ⟨line, behind⟩
      rw [line, List.nil_append, behind, ← Lexeme.significant_append,
        List.append_assoc, List.singleton_append]
      exact ⟨rfl, spacedRight⟩
  | cons character after =>
      have white : lexeme.kind = .whitespace := by
        apply spaced lexeme (by simp)
        rw [inside]
        simp
      rcases lexed.lexemes_blank_line white inside
        (List.cons_ne_nil character after) with ⟨line, behind⟩
      have trivia : lexeme.kind.isTrivia = true := by
        rw [white]
        rfl
      rw [line, behind]
      simp only [Lexeme.significant_append]
      rw [Lexeme.significant_cons_of_trivia trivia,
        Lexeme.significant_cons_of_trivia rfl,
        Lexeme.significant_cons_of_trivia rfl]
      refine ⟨by simp [Lexeme.significant], ?_⟩
      intro other member
      rcases List.mem_cons.1 member with rfl | member
      · exact fun _ => rfl
      · exact spacedRight other member

/-- The significant lexemes of a text are those of its lines. -/
theorem significant_linesFrom (read text : Text)
    (spaced : Lexeme.Spaced (standard.lexemes (read.reverse ++ text))) :
    (Program.linesFrom read text).flatMap
        (fun line => Lexeme.significant (standard.lexemes line)) =
      Lexeme.significant (standard.lexemes (read.reverse ++ text)) := by
  fun_induction Program.linesFrom read text with
  | case1 read empty =>
      rw [List.isEmpty_iff.1 empty, List.reverse_nil, List.nil_append,
        lexemes_nil]
      rfl
  | case2 read solid => simp
  | case3 read rest hypothesis =>
      rcases significant_append_line spaced with ⟨cut, spacedRest⟩
      rw [List.flatMap_cons, hypothesis spacedRest, cut, List.reverse_cons]
      rfl
  | case4 read character rest other hypothesis =>
      rw [List.reverse_cons, List.append_assoc, List.singleton_append]
        at hypothesis
      exact hypothesis spaced

end RuleTable

namespace Program

/-- The lines of a text, one behind the other, are the text. -/
theorem flatten_linesFrom (read text : Text) :
    (linesFrom read text).flatten = read.reverse ++ text := by
  fun_induction linesFrom read text with
  | case1 read empty => rw [List.isEmpty_iff.1 empty]; rfl
  | case2 read solid => simp
  | case3 read rest hypothesis =>
      rw [List.flatten_cons, hypothesis, List.reverse_cons]
      simp
  | case4 read character rest other hypothesis =>
      rw [hypothesis, List.reverse_cons, List.append_assoc,
        List.singleton_append]

/-- A line has a line feed at its end only. -/
theorem newline_not_mem_of_mem_linesFrom {read text line : Text}
    (current : '\n' ∉ read) (member : line ∈ linesFrom read text) :
    '\n' ∉ line.dropLast := by
  fun_induction linesFrom read text with
  | case1 read empty => cases member
  | case2 read solid =>
      rw [List.mem_singleton] at member
      rw [member]
      intro inside
      apply current
      rw [← List.mem_reverse]
      exact (List.dropLast_sublist _).subset inside
  | case3 read rest hypothesis =>
      rcases List.mem_cons.1 member with rfl | later
      · rw [List.reverse_cons, List.dropLast_concat, List.mem_reverse]
        exact current
      · exact hypothesis nofun later
  | case4 read character rest other hypothesis =>
      apply hypothesis _ member
      rw [List.mem_cons, not_or]
      exact ⟨Ne.symm other, current⟩

/-- What is listed for a line of a conversation. -/
theorem output_answerLine (colors showTrivia : Bool) (line : Text) :
    (answerLine colors showTrivia line).output =
      prompt ++ (SourceFile.of line none).listing colors showTrivia false :=
  congrArg (prompt ++ ·)
    (Listing.render_eq colors showTrivia _ (tokenize line))

/-- Lines are answered one after the other. -/
theorem answerLines_eq (colors showTrivia : Bool) (lines : List Text) :
    (answerLines colors showTrivia lines).result = .ok () ∧
      (answerLines colors showTrivia lines).output =
        lines.flatMap fun line => prompt ++
          (SourceFile.of line none).listing colors showTrivia false := by
  induction lines with
  | nil => exact ⟨rfl, rfl⟩
  | cons line lines hypothesis =>
      rw [List.flatMap_cons, ← output_answerLine, ← hypothesis.2]
      exact ⟨hypothesis.1, rfl⟩

theorem output_converse (colors showTrivia : Bool) (input : Input) :
    (converse colors showTrivia input).output =
      banner ++ ((lines input.text).flatMap fun line => prompt ++
        (SourceFile.of line none).listing colors showTrivia false) ++
        prompt := by
  rcases answerLines_eq colors showTrivia (lines input.text) with
    ⟨result, output⟩
  rw [← output, converse, Transcript.andThen, Transcript.andThen]
  simp only [result]
  rfl

end Program

/-- On a line, tokens have the first line and the column that counts to them. -/
theorem position_of_mem_line {line : Text} (newline : '\n' ∉ line.dropLast)
    {token : Token} (member : token ∈ (tokenize line).tokens)
    (path : Option String) :
    ∃ before after, line = before ++ (token.text ++ after) ∧
      Text.size before = token.start ∧
      (SourceFile.of line path).position token.start =
        { line := 1, column := before.length + 1 } := by
  rcases exists_place_of_mem member with
    ⟨lexeme, before, after, split, start⟩
  have solid : token.text ++ after ≠ [] := by
    have text := RuleTable.standard.lexemes_solid line _ lexeme
    simp [text]
  have first : '\n' ∉ before := by
    rw [split, List.dropLast_append_of_ne_nil solid, List.mem_append,
      not_or] at newline
    exact newline.1
  refine ⟨before, after, split, start, ?_⟩
  have located := SourceFile.position_size_append before (token.text ++ after)
    path
  rw [← split, start] at located
  rw [located, Position.behind_line first]

/-- The rows other than trivia hold the significant lexemes. -/
theorem map_toLexeme_rows (showTrivia : Bool) (file : SourceFile)
    (text : Text) :
    ((Listing.rows showTrivia file (tokenize text)).filter fun row =>
        !row.kind.isTrivia).map Row.toLexeme =
      Lexeme.significant (RuleTable.standard.lexemes text) := by
  have solid : ∀ kind : Kind, (!kind.isTrivia) = true →
      kind.isTrivia = false := by
    intro kind
    rw [Bool.not_eq_true']
    exact id
  rw [Listing.filter_rows solid, ← map_toLexeme_significant, List.map_map]
  rfl

/-- The significant lexemes of a text are those of its lines. -/
theorem significant_lines {text : Text}
    (spaced : ∀ token ∈ (tokenize text).tokens,
      '\n' ∈ token.text.dropLast → token.kind = .whitespace) :
    (Program.lines text).flatMap
        (fun line => Lexeme.significant (RuleTable.standard.lexemes line)) =
      (tokenize text).significant.map Token.toLexeme := by
  rw [map_toLexeme_significant]
  apply RuleTable.significant_linesFrom [] text
  intro lexeme member
  rw [List.reverse_nil, List.nil_append,
    ← Token.map_toLexeme_layout 0 (RuleTable.standard.lexemes text),
    ← tokens_tokenize] at member
  rcases List.mem_map.1 member with ⟨token, among, rfl⟩
  exact spaced token among

/--
A conversation agrees with a scan of its whole text.  It shows the rows of each
line behind a prompt.  If only white space runs over the ends of lines, the rows
other than trivia have the kinds and the texts of the significant tokens of the
text.  Tokens have the first line, and the column that counts the characters
before them in their own line.
-/
theorem conversation_agrees {environment : Environment}
    {config : Option String} {configuration : Configuration}
    (valid : (Program.configure environment config).2 = .ok configuration) :
    let text := environment.input.text
    let lines := Program.lines text
    let colors := environment.colors && configuration.color
    let showTrivia := configuration.showTrivia
    let file := fun line => SourceFile.of line none
    let rows := fun line => Listing.rows showTrivia (file line) (tokenize line)
    (Program.run environment { config, action := .repl }).output =
        Program.banner ++
          (lines.flatMap fun line => Program.prompt ++
            (rows line).flatMap fun row => row.render colors ++ ['\n']) ++
          Program.prompt ∧
      lines.flatten = text ∧
      ((∀ token ∈ (tokenize text).tokens,
          '\n' ∈ token.text.dropLast → token.kind = .whitespace) →
        lines.flatMap (fun line =>
            ((rows line).filter fun row => !row.kind.isTrivia).map
              Row.toLexeme) =
          (tokenize text).significant.map Token.toLexeme) ∧
      ∀ line ∈ lines, '\n' ∉ line.dropLast ∧
        ∀ token ∈ Listing.shown showTrivia (tokenize line),
          ∃ before after, line = before ++ (token.text ++ after) ∧
            Text.size before = token.start ∧
            (file line).position token.start =
              { line := 1, column := before.length + 1 } := by
  intro text lines colors showTrivia file rows
  refine ⟨?_, Program.flatten_linesFrom [] text, ?_, ?_⟩
  · rw [(Program.run_of_configure valid .repl).2.1]
    exact Program.output_converse colors showTrivia environment.input
  · intro spaced
    simp only [rows, map_toLexeme_rows]
    exact significant_lines spaced
  · intro line member
    have newline := Program.newline_not_mem_of_mem_linesFrom
      List.not_mem_nil member
    refine ⟨newline, ?_⟩
    intro token among
    exact position_of_mem_line newline (List.mem_filter.1 among).1 none

/-- A string literal without an end, and an empty line in white space. -/
theorem conversation_agrees_blank :
    let text := "\"a\n\nx".toList
    let rows := fun line =>
      Listing.rows true (SourceFile.of line none) (tokenize line)
    Program.lines text = ["\"a\n".toList, "\n".toList, "x".toList] ∧
      (Program.lines text).flatMap (fun line =>
          ((rows line).filter fun row => !row.kind.isTrivia).map
            Row.toLexeme) =
        (tokenize text).significant.map Token.toLexeme := by
  intro text rows
  let environment : Environment :=
    { read := fun _ => .error .notFound, input := { text }, colors := false }
  have spaced : ∀ token ∈ (tokenize text).tokens,
      '\n' ∈ token.text.dropLast → token.kind = .whitespace := by
    decide +kernel
  exact ⟨by decide,
    (@conversation_agrees environment none {} rfl).2.2.1 spaced⟩

end BayesLex
