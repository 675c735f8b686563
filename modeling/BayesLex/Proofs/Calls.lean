import BayesLex.Proofs.Separators

/-!
# Calls are recognised exactly

A token that begins a word is the name of a function, a type name, or the rest of
the word as a whole.  `WordBefore` tells for each of these what may stand behind
it, and every scan keeps to that, also where it has come into the middle of a word:
behind a type name, behind digits, or behind a letter that begins no word.

So the names of functions are those tokens that begin a word and stand directly
before a parenthesis (`calls_recognised`), and a word is told apart from the next one
unless a type name has been cut off.
-/

namespace BayesLex

/-- Whether a lexeme begins as a word does. -/
def Lexeme.startsWord (lexeme : Lexeme) : Bool :=
  lexeme.text.head?.any isWordStart

/-- A character that may begin a word, and word characters behind it. -/
def Text.IsIdentifier (text : Text) : Prop :=
  ∃ first others, text = first :: others ∧ isWordStart first = true ∧
    ∀ character ∈ others, isWord character = true

/-- Before another lexeme begins what its text begins with. -/
theorem Lexeme.head?_texts_cons {lexeme : Lexeme} (solid : lexeme.text ≠ [])
    (later : List Lexeme) :
    (texts (lexeme :: later)).head? = lexeme.text.head? := by
  cases text : lexeme.text with
  | nil => exact absurd text solid
  | cons character rest => rw [texts_cons, text, List.cons_append]; rfl

namespace Grammar

open Vocabulary

/-- The lexemes that begin a word, by the text that stands behind them. -/
inductive WordBefore (behind : Text) : Lexeme → Prop
  | call {name : Text} (inside : ∀ character ∈ name, isWord character = true)
      (opens : behind.head? = some '(') :
      WordBefore behind { kind := .functionName, text := name }
  | type {entry : Text} (other : behind.head? ≠ some '(') :
      WordBefore behind { kind := .typeName, text := entry }
  | whole {kind : Kind} {name : Text}
      (among : kind ∈ [.keyword, .keywordConstant, .identifier])
      (other : behind.head? ≠ some '(')
      (stops : behind.head?.any isWord = false) :
      WordBefore behind { kind, text := name }

/-- A parenthesis behind word characters stands behind the whole word. -/
theorem head?_dropWhile_of_opens {entry behind : Text}
    (inside : ∀ character ∈ entry, isWord character = true)
    (opens : behind.head? = some '(') :
    ((entry ++ behind).dropWhile isWord).head? = some '(' := by
  have stop : behind.head?.any isWord = false := by
    rw [opens]
    decide
  rw [Text.dropWhile_append_of_stop inside stop, opens]

theorem wordBefore_word (text : Text) :
    WordBefore (text.drop (word text).first.text.length) (word text).first := by
  have stops := Text.head?_dropWhile isWord text
  rw [← Text.drop_length_takeWhile] at stops
  unfold word
  by_cases called : (text.dropWhile isWord).head? = some '('
  · rw [if_pos called, Text.drop_length_takeWhile]
    exact .call (fun _ => Text.sort_of_mem_takeWhile) called
  · have other := called
    rw [← Text.drop_length_takeWhile] at other
    rw [if_neg called]
    cases entry : Text.longest? (types.map String.toList) text with
    | some entry =>
        rcases Text.mem_of_longest?_eq_some entry with ⟨listed, behind, rfl⟩
        have inside := List.all_eq_true.1 (types_isWord _ listed)
        apply WordBefore.type
        dsimp only [Match.alone]
        rw [List.drop_left]
        exact mt (head?_dropWhile_of_opens inside) called
    | none =>
        dsimp only
        split
        · exact .whole (by decide) other stops
        · split
          · exact .whole (by decide) other stops
          · exact .whole (by decide) other stops

theorem kind_number (text : Text) :
    (number text).first.kind ∈ [Kind.floatLiteral, .integerLiteral] := by
  unfold number
  dsimp only
  split
  · simp [Match.alone]
  · simp [Match.alone]

theorem kind_mark (character : Char) (text : Text) :
    (mark character text).first.kind ∈
      [Kind.operator, .punctuation, .whitespace, .error] := by
  unfold mark
  split
  · simp [Match.alone]
  · split
    · simp [Match.alone]
    · split
      · simp [Match.alone]
      · simp [Match.alone]

theorem kind_symbol (character : Char) (text : Text) :
    (symbol character text).first.kind ∈
      [Kind.lineComment, .blockComment, .stringLiteral, .operator,
        .punctuation, .whitespace, .error] := by
  unfold symbol
  split
  · simp [Match.alone]
  · split
    · simp [Match.alone]
    · split
      · simp [Match.alone]
      · exact List.mem_cons_of_mem _ (List.mem_cons_of_mem _
          (List.mem_cons_of_mem _ (kind_mark character text)))

/-- The kinds of the lexemes that begin a word. -/
def wordKinds : List Kind :=
  [.functionName, .identifier, .keyword, .keywordConstant, .typeName]

/-- Only a word gives the kinds of words. -/
theorem isWordStart_of_kind_munch {character : Char} {rest : Text}
    (among : (munch character rest).first.kind ∈ wordKinds) :
    isWordStart character = true := by
  have apart : ∀ kind ∈ [Kind.floatLiteral, .integerLiteral, .lineComment,
      .blockComment, .stringLiteral, .operator, .punctuation, .whitespace,
      .error], kind ∉ wordKinds := by
    decide
  by_cases starts : isWordStart character = true
  · exact starts
  · rw [munch, if_neg starts] at among
    split at among
    · exact absurd among (apart _ (List.mem_append_left _ (kind_number _)))
    · exact absurd among (apart _ (List.mem_append_right
        [Kind.floatLiteral, .integerLiteral] (kind_symbol _ _)))

end Grammar

namespace RuleTable

open Grammar

variable {lexeme : Lexeme} {later : List Lexeme}

/-- A lexeme begins with the character at which it has been found. -/
theorem Lexed.exists_munch_begins (lexed : Lexed (lexeme :: later)) :
    ∃ character rest,
      Lexeme.texts (lexeme :: later) = character :: rest ∧
        (munch character rest).first = lexeme ∧
        lexeme.text.head? = some character := by
  rcases lexed.exists_munch with ⟨character, rest, texts, first, _⟩
  have solid := lexed.text_ne_nil lexeme List.mem_cons_self
  have head := Lexeme.head?_texts_cons solid later
  rw [texts] at head
  exact ⟨character, rest, texts, first, head.symm⟩

/-- A lexeme that begins a word keeps to what may stand behind it. -/
theorem Lexed.wordBefore (lexed : Lexed (lexeme :: later))
    (starts : lexeme.startsWord = true) :
    WordBefore (Lexeme.texts later) lexeme := by
  rcases lexed.exists_munch_begins with
    ⟨character, rest, texts, first, head⟩
  rw [Lexeme.startsWord, head, Option.any_some] at starts
  have before := wordBefore_word (character :: rest)
  rw [munch, if_pos starts] at first
  rw [first, ← texts, Lexeme.texts_cons, List.drop_left] at before
  exact before

/-- The kind of a lexeme tells whether it begins a word. -/
theorem Lexed.startsWord_of_kind (lexed : Lexed (lexeme :: later))
    (among : lexeme.kind ∈ wordKinds) : lexeme.startsWord = true := by
  rcases lexed.exists_munch_begins with ⟨character, rest, _, rfl, head⟩
  rw [Lexeme.startsWord, head]
  exact isWordStart_of_kind_munch among

/-- Lexemes that begin with a parenthesis begin with one of its own. -/
theorem Lexed.head?_of_opens (lexed : Lexed later)
    (opens : (Lexeme.texts later).head? = some '(') :
    later.head? = some { kind := .punctuation, text := ['('] } := by
  cases later with
  | nil => cases opens
  | cons next later =>
      rcases lexed.exists_munch with ⟨character, rest, texts, first, _⟩
      rw [texts] at opens
      cases opens
      rw [munch_parenthesis] at first
      rw [← first]
      rfl

/-- What the next lexeme begins with is what follows. -/
theorem Lexed.head?_texts_of_mem (lexed : Lexed later) {next : Lexeme}
    (follows : next ∈ later.head?) :
    (Lexeme.texts later).head? = next.text.head? := by
  cases later with
  | nil => cases follows
  | cons first later =>
      cases follows
      exact Lexeme.head?_texts_cons (lexed.text_ne_nil next List.mem_cons_self)
        later

theorem Lexed.opens_iff (lexed : Lexed later) :
    (Lexeme.texts later).head? = some '(' ↔
      ∃ next ∈ later.head?, next.text = ['('] := by
  constructor
  · intro opens
    exact ⟨_, lexed.head?_of_opens opens, rfl⟩
  · rintro ⟨next, follows, text⟩
    rw [lexed.head?_texts_of_mem follows, text]
    rfl

/-- Of the lexemes that begin a word, those before a parenthesis are calls. -/
theorem Lexed.kind_eq_functionName_iff (lexed : Lexed (lexeme :: later))
    (starts : lexeme.startsWord = true) :
    lexeme.kind = .functionName ↔
      (Lexeme.texts later).head? = some '(' := by
  cases lexed.wordBefore starts with
  | call _ opens => exact iff_of_true rfl opens
  | type other => exact iff_of_false nofun other
  | whole among other _ =>
      refine iff_of_false ?_ other
      rintro rfl
      exact absurd among (by decide)

/-- The name of a function is a word, and a parenthesis stands behind it. -/
theorem Lexed.of_functionName (lexed : Lexed (lexeme :: later))
    (kind : lexeme.kind = .functionName) :
    lexeme.text.IsIdentifier ∧ (Lexeme.texts later).head? = some '(' := by
  have starts := lexed.startsWord_of_kind (kind ▸ List.mem_cons_self)
  cases lexed.wordBefore starts with
  | @call name inside opens =>
      refine ⟨?_, opens⟩
      cases name with
      | nil => cases starts
      | cons first others =>
          exact ⟨first, others, rfl, starts,
            fun character member => inside character (.tail first member)⟩
  | type => cases kind
  | whole among =>
      cases kind
      exact absurd among (by decide)

/-- Two lexemes that begin words stand together only behind a type name. -/
theorem Lexed.kind_eq_typeName (lexed : Lexed (lexeme :: later))
    (starts : lexeme.startsWord = true)
    (startsToo : (Lexeme.texts later).head?.any isWordStart = true) :
    lexeme.kind = .typeName := by
  cases lexed.wordBefore starts with
  | type => rfl
  | call _ opens =>
      rw [opens] at startsToo
      exact absurd startsToo (by decide)
  | whole _ _ stops =>
      cases head : (Lexeme.texts later).head? with
      | none => simp [head] at startsToo
      | some character =>
          rw [head] at startsToo stops
          have inside : isWord character = true :=
            isWord_of_isWordStart startsToo
          exact absurd (inside.symm.trans stops) nofun

end RuleTable

/-- A token of a source, and the lexemes that the next tokens have. -/
theorem exists_lexed {source : Text} {i : Nat} {token : Token}
    (found : (tokenize source).tokens[i]? = some token) :
    ∃ later, RuleTable.Lexed (token.toLexeme :: later) ∧
      later.head? = ((tokenize source).tokens[i + 1]?).map Token.toLexeme := by
  let lexemes := RuleTable.standard.lexemes source
  rw [tokens_tokenize] at found ⊢
  rcases List.getElem?_eq_some_iff.1 (Token.getElem?_layout found).1 with
    ⟨inside, atIndex⟩
  have lexed : RuleTable.Lexed (lexemes.take i ++ lexemes.drop i) := by
    rw [List.take_append_drop]
    exact RuleTable.lexed_lexemes source
  refine ⟨lexemes.drop (i + 1), ?_, ?_⟩
  · rw [← atIndex, ← List.drop_eq_getElem_cons inside]
    exact lexed.right
  · rw [← List.getElem?_map, Token.map_toLexeme_layout, List.head?_drop]

/--
Calls are recognised exactly.  A token that begins a word is the name of a function
exactly if the next token is an opening parenthesis.  The name is a whole word, and
the parenthesis is punctuation.  So no other token of a word stands directly before
a parenthesis, and no two tokens that begin words stand together unless the first
one is a type name.
-/
theorem calls_recognised {source : Text} {i : Nat} {token : Token}
    (found : (tokenize source).tokens[i]? = some token) :
    let next? := (tokenize source).tokens[i + 1]?
    (token.startsWord = true →
      (token.kind = .functionName ↔ ∃ next ∈ next?, next.text = ['('])) ∧
    (token.kind = .functionName → token.text.IsIdentifier ∧
      ∃ next ∈ next?, next.kind = .punctuation ∧ next.text = ['(']) ∧
    (token.kind ∈ [.identifier, .keyword, .keywordConstant, .typeName] →
      ∀ next ∈ next?, next.text ≠ ['(']) ∧
    (token.startsWord = true →
      ∀ next ∈ next?, next.startsWord = true → token.kind = .typeName) := by
  intro next?
  rcases exists_lexed found with ⟨later, lexed, follows⟩
  have behind : RuleTable.Lexed later := by
    rw [← List.singleton_append] at lexed
    exact lexed.right
  have opens_iff : (Lexeme.texts later).head? = some '(' ↔
      ∃ next ∈ next?, next.text = ['('] := by
    rw [behind.opens_iff, follows]
    constructor
    · rintro ⟨lexeme, member, text⟩
      rcases Option.map_eq_some_iff.1 member with ⟨next, isNext, rfl⟩
      exact ⟨next, isNext, text⟩
    · rintro ⟨next, member, text⟩
      exact ⟨next.toLexeme, Option.mem_map_of_mem _ member, text⟩
  refine ⟨?_, ?_, ?_, ?_⟩
  · intro starts
    rw [← opens_iff]
    exact lexed.kind_eq_functionName_iff starts
  · intro kind
    rcases lexed.of_functionName kind with ⟨identifier, opens⟩
    have parenthesis := behind.head?_of_opens opens
    rw [follows] at parenthesis
    rcases Option.map_eq_some_iff.1 parenthesis with ⟨next, member, lexeme⟩
    exact ⟨identifier, next, member, congrArg Lexeme.kind lexeme,
      congrArg Lexeme.text lexeme⟩
  · intro among next member text
    have starts := lexed.startsWord_of_kind (List.mem_cons_of_mem _ among)
    have call := (lexed.kind_eq_functionName_iff starts).2
      (opens_iff.2 ⟨next, member, text⟩)
    rw [call] at among
    exact absurd among (by decide)
  · intro starts next member startsToo
    have nextLexeme : next.toLexeme ∈ later.head? := by
      rw [follows]
      exact Option.mem_map_of_mem _ member
    apply lexed.kind_eq_typeName starts
    rw [behind.head?_texts_of_mem nextLexeme]
    exact startsToo

/-- A call behind a digit and a letter that begins no word. -/
theorem calls_recognised_inside :
    let tokens := (tokenize "1éList(ing)".toList).tokens
    let token : Token :=
      { kind := .functionName, text := "List".toList, start := 3 }
    tokens[2]? = some token ∧ token.startsWord = true ∧
      (token.kind = .functionName ↔ ∃ next ∈ tokens[3]?, next.text = ['(']) := by
  intro tokens token
  have found : tokens[2]? = some token := by decide +kernel
  have starts : token.startsWord = true := by decide
  exact ⟨found, starts, (calls_recognised found).1 starts⟩

end BayesLex
