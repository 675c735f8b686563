import BayesLex.Proofs.MaximalMunch

/-!
# Tokens are local

What a text begins with is decided before the end of the match: a text that is
cut off there or farther on begins with the same.  So a part of a source that
lies between two boundaries of tokens has the tokens that the source has
there, unless it ends behind the name of a function, whose token depends on
the parenthesis that follows.
-/

namespace BayesLex

namespace Grammar

open Vocabulary

/-- A call that is seen in a text that is cut off stands in the whole text. -/
theorem opens_of_take {text : Text} {length : Nat}
    (opens : ((text.take length).dropWhile isWord).head? = some '(') :
    (text.dropWhile isWord).head? = some '(' := by
  rcases List.head?_eq_some_iff.1 opens with ⟨more, behind⟩
  have cut : text.take length =
      (text.take length).takeWhile isWord ++ '(' :: more := by
    rw [← behind, List.takeWhile_append_dropWhile]
  have whole : text = (text.take length).takeWhile isWord ++
      ('(' :: more ++ text.drop length) := by
    rw [← List.append_assoc, ← cut, List.take_append_drop]
  have stop : ('(' :: more ++ text.drop length).head?.any isWord = false := by
    change isWord '(' = false
    decide
  rw [whole, Text.dropWhile_append_of_stop
    (fun _ => Text.sort_of_mem_takeWhile) stop]
  rfl

theorem word_take {text : Text} {length : Nat}
    (inside : (word text).text.length ≤ length) :
    word (text.take length) = word text := by
  unfold word at inside ⊢
  by_cases called : (text.dropWhile isWord).head? = some '('
  · rw [if_pos called] at inside
    have fits : (text.takeWhile isWord).length + 1 ≤ length := by
      simpa [Match.text, Match.lexemes] using inside
    have calledToo : ((text.take length).dropWhile isWord).head? =
        some '(' := by
      rw [Text.dropWhile_take (by omega), List.head?_take, if_neg (by omega),
        called]
    rw [if_pos called, if_pos calledToo, Text.takeWhile_take (by omega)]
  · have notCalled : ¬ ((text.take length).dropWhile isWord).head? =
        some '(' :=
      fun opens => called (opens_of_take opens)
    rw [if_neg called] at inside
    rw [if_neg called, if_neg notCalled]
    cases entry : Text.longest? (types.map String.toList) text with
    | some entry =>
        simp only [entry, Match.text_alone] at inside
        rw [Text.longest?_take (by simpa [entry] using inside), entry]
    | none =>
        simp only [entry] at inside
        have fits : (text.takeWhile isWord).length ≤ length := by
          split at inside
          · simpa using inside
          split at inside
          · simpa using inside
          · simpa using inside
        rw [Text.longest?_take (by simp [entry]), entry,
          Text.takeWhile_take fits]

theorem number_take {text : Text} {length : Nat}
    (inside : (number text).text.length ≤ length) :
    number (text.take length) = number text := by
  dsimp only [number] at inside ⊢
  by_cases fraction : (text.dropWhile Char.isDigit).head? = some '.' ∧
      ((text.dropWhile Char.isDigit).drop 1).head?.any Char.isDigit = true
  · rw [if_pos fraction, Match.text_alone, List.length_append,
      List.length_cons] at inside
    rw [if_pos fraction, Text.takeWhile_take (by omega),
      Text.dropWhile_take (by omega)]
    rcases List.head?_eq_some_iff.1 fraction.1 with ⟨digits, behind⟩
    rw [behind, List.drop_one, List.tail_cons] at fraction inside
    have solid : digits.takeWhile Char.isDigit ≠ [] :=
      Text.takeWhile_ne_nil fraction.2
    have positive := List.length_pos_iff.2 solid
    -- the cut falls behind the point and at least one digit
    obtain ⟨more, farther⟩ : ∃ more,
        length - (text.takeWhile Char.isDigit).length = more + 1 :=
      ⟨length - (text.takeWhile Char.isDigit).length - 1, by omega⟩
    rw [behind, farther, List.take_succ_cons, List.drop_one, List.drop_one,
      List.tail_cons, List.tail_cons, Text.takeWhile_take (by omega)]
    apply if_pos
    refine ⟨rfl, ?_⟩
    rw [List.head?_take, if_neg (by omega)]
    exact fraction.2
  · rw [if_neg fraction, Match.text_alone] at inside
    have noFraction : ¬ (((text.take length).dropWhile Char.isDigit).head? =
          some '.' ∧
        (((text.take length).dropWhile Char.isDigit).drop 1).head?.any
          Char.isDigit = true) := by
      rw [Text.dropWhile_take inside, List.drop_take, List.head?_take,
        List.head?_take]
      rintro ⟨point, digit⟩
      split at point
      · cases point
      split at digit
      · cases digit
      exact fraction ⟨point, digit⟩
    rw [if_neg fraction, if_neg noFraction, Text.takeWhile_take inside]

theorem mark_take {character : Char} {text : Text} {length : Nat}
    (inside : (mark character text).text.length ≤ length) :
    mark character (text.take length) = mark character text := by
  unfold mark at inside ⊢
  cases entry : Text.longest? (operators.map String.toList) text with
  | some entry =>
      simp only [entry, Match.text_alone] at inside
      rw [Text.longest?_take (by simpa [entry] using inside), entry]
  | none =>
      simp only [entry] at inside
      rw [Text.longest?_take (by simp [entry]), entry]
      dsimp only
      split
      · rfl
      · rename_i noDelimiter
        rw [if_neg noDelimiter] at inside
        split
        · rename_i blank
          rw [if_pos blank, Match.text_alone] at inside
          rw [Text.takeWhile_take inside]
        · rfl

theorem symbol_take {character : Char} {rest : Text} {length : Nat}
    (inside : (symbol character (character :: rest)).text.length ≤ length) :
    symbol character ((character :: rest).take length) =
      symbol character (character :: rest) := by
  have begins : (character :: rest).take length <+: character :: rest :=
    List.take_prefix length (character :: rest)
  unfold symbol at inside ⊢
  by_cases line : ['/', '/'] <+: character :: rest
  · rw [if_pos line, Match.text_alone] at inside
    have long := Scanner.two_le_count_lineComment line
    have lineToo : ['/', '/'] <+: (character :: rest).take length :=
      List.prefix_take_iff.2 ⟨line, Nat.le_trans
        (Scanner.prefix_scan line long).length_le inside⟩
    rw [if_pos line, if_pos lineToo,
      Scanner.scan_take (Nat.zero_lt_of_lt long) inside]
  · rw [if_neg line] at inside
    rw [if_neg line, if_neg fun starts => line (starts.trans begins)]
    by_cases block : ['/', '*'] <+: character :: rest
    · rw [if_pos block, Match.text_alone] at inside
      have long := Scanner.two_le_count_blockComment block
      have blockToo : ['/', '*'] <+: (character :: rest).take length :=
        List.prefix_take_iff.2 ⟨block, Nat.le_trans
          (Scanner.prefix_scan block long).length_le inside⟩
      rw [if_pos block, if_pos blockToo,
        Scanner.scan_take (Nat.zero_lt_of_lt long) inside]
    · rw [if_neg block] at inside
      rw [if_neg block, if_neg fun starts => block (starts.trans begins)]
      by_cases quote : character = '"'
      · subst quote
        rw [if_pos rfl, Match.text_alone] at inside
        rw [if_pos rfl, if_pos rfl,
          Scanner.scan_take (Scanner.count_string_pos rest) inside]
      · rw [if_neg quote] at inside
        rw [if_neg quote, if_neg quote]
        exact mark_take inside

/-- A text that is cut off behind its first match begins with that match. -/
theorem munch_take {character : Char} {rest : Text} {length : Nat}
    (inside : (munch character rest).text.length ≤ length + 1) :
    munch character (rest.take length) = munch character rest := by
  unfold munch at inside ⊢
  rw [← List.take_succ_cons]
  split
  · rename_i starts
    rw [if_pos starts] at inside
    exact word_take inside
  · rename_i noWord
    rw [if_neg noWord] at inside
    split
    · rename_i digit
      rw [if_pos digit] at inside
      exact number_take inside
    · rename_i noDigit
      rw [if_neg noDigit] at inside
      exact symbol_take inside

theorem others_word (text : Text) :
    ((word text).others = [] ∧ (word text).first.kind ≠ .functionName) ∨
      (word text).first.kind = .functionName ∧
        (word text).others = [{ kind := .punctuation, text := ['('] }] := by
  dsimp only [word]
  split
  · exact .inr ⟨rfl, rfl⟩
  · left
    split
    · exact ⟨rfl, nofun⟩
    split
    · exact ⟨rfl, nofun⟩
    split
    · exact ⟨rfl, nofun⟩
    · exact ⟨rfl, nofun⟩

theorem others_number (text : Text) :
    (number text).others = [] ∧ (number text).first.kind ≠ .functionName := by
  dsimp only [number]
  split
  · exact ⟨rfl, nofun⟩
  · exact ⟨rfl, nofun⟩

theorem others_mark (character : Char) (text : Text) :
    (mark character text).others = [] ∧
      (mark character text).first.kind ≠ .functionName := by
  unfold mark
  split
  · exact ⟨rfl, nofun⟩
  · split
    · exact ⟨rfl, nofun⟩
    · split
      · exact ⟨rfl, nofun⟩
      · exact ⟨rfl, nofun⟩

theorem others_symbol (character : Char) (text : Text) :
    (symbol character text).others = [] ∧
      (symbol character text).first.kind ≠ .functionName := by
  unfold symbol
  split
  · exact ⟨rfl, nofun⟩
  · split
    · exact ⟨rfl, nofun⟩
    · split
      · exact ⟨rfl, nofun⟩
      · exact others_mark character text

/-- Only the head of a call is more than one lexeme, and it always is. -/
theorem others_munch (character : Char) (rest : Text) :
    ((munch character rest).others = [] ∧
        (munch character rest).first.kind ≠ .functionName) ∨
      (munch character rest).first.kind = .functionName ∧
        (munch character rest).others =
          [{ kind := .punctuation, text := ['('] }] := by
  unfold munch
  split
  · exact others_word (character :: rest)
  split
  · exact .inl (others_number (character :: rest))
  · exact .inl (others_symbol character (character :: rest))

/-- An opening parenthesis is punctuation, whatever follows. -/
theorem munch_parenthesis (rest : Text) :
    munch '(' rest = .alone .punctuation ['('] := by
  have heads : ∀ entry ∈ operators.map String.toList,
      entry.head?.any (fun character => character != '(') = true := by
    decide
  have notOperator :
      Text.longest? (operators.map String.toList) ('(' :: rest) = none :=
    Text.longest?_of_other heads (by decide) rest
  rw [munch, if_neg (by decide), if_neg (by decide), symbol,
    if_neg (by simp [List.cons_prefix_cons]),
    if_neg (by simp [List.cons_prefix_cons]), if_neg (by decide), mark,
    notOperator]
  exact if_pos (by decide)

end Grammar

namespace RuleTable

open Grammar

theorem lexemes_munch (character : Char) (rest : Text) :
    standard.lexemes (character :: rest) =
      (munch character rest).lexemes ++
        standard.lexemes ((character :: rest).drop
          (munch character rest).text.length) := by
  rw [lexemes_cons, bite_standard]

/--
A boundary between lexemes lies at the beginning of the text, behind the first
match, or inside the head of a call.
-/
theorem boundary_cases {character : Char} {rest : Text}
    {left right : List Lexeme}
    (split : standard.lexemes (character :: rest) = left ++ right) :
    let found := munch character rest
    let later := standard.lexemes
      ((character :: rest).drop found.text.length)
    left = [] ∨
      (∃ others, left = found.lexemes ++ others ∧ later = others ++ right) ∨
      (left = [found.first] ∧ found.first.kind = .functionName ∧
        right = { kind := .punctuation, text := ['('] } :: later) := by
  intro found later
  rw [lexemes_munch] at split
  cases left with
  | nil => exact .inl rfl
  | cons first left =>
      right
      rcases List.cons.inj split with ⟨rfl, behind⟩
      rcases others_munch character rest with ⟨alone, _⟩ | ⟨kind, call⟩
      · left
        rw [alone] at behind
        refine ⟨left, ?_, behind⟩
        rw [Match.lexemes, alone]
        rfl
      · rw [call] at behind
        cases left with
        | nil => exact .inr ⟨rfl, kind, behind.symm⟩
        | cons second left =>
            rcases List.cons.inj behind with ⟨rfl, beyond⟩
            left
            refine ⟨left, ?_, beyond⟩
            rw [Match.lexemes, call]
            rfl

/-- The lexemes from any of them on are those of the text from there on. -/
theorem lexemes_texts_right {text : Text} {left right : List Lexeme}
    (split : standard.lexemes text = left ++ right) :
    standard.lexemes (Lexeme.texts right) = right := by
  fun_induction standard.lexemes text generalizing left with
  | case1 =>
      rcases List.append_eq_nil_iff.1 split.symm with ⟨rfl, rfl⟩
      exact lexemes_nil standard
  | case2 character rest hypothesis =>
      rw [bite_standard] at hypothesis
      rw [← lexemes_cons] at split
      rcases boundary_cases split with
        rfl | ⟨others, _, behind⟩ | ⟨_, _, behind⟩
      · rw [List.nil_append] at split
        rw [← split, texts_lexemes]
      · exact hypothesis behind
      · rw [behind, Lexeme.texts_cons, texts_lexemes, List.singleton_append,
          lexemes_munch, munch_parenthesis]
        rfl

theorem covers_munch (character : Char) (rest : Text) :
    (munch character rest).Covers (character :: rest) := by
  rw [← bite_standard]
  exact covers_bite standard character rest

/-- Behind the first match, the lexemes of a text that is cut off go on. -/
theorem lexemes_append_of_begins {character : Char} {rest cut : Text}
    (begins : cut <+: (character :: rest).drop
      (munch character rest).text.length) :
    standard.lexemes ((munch character rest).text ++ cut) =
      (munch character rest).lexemes ++ standard.lexemes cut := by
  have covers := covers_munch character rest
  have shorter : (munch character rest).text ++ cut <+: character :: rest := by
    rw [← covers.text_append_drop]
    exact (List.prefix_append_right_inj _).2 begins
  cases taken : (munch character rest).text with
  | nil => exact absurd taken covers.text_ne_nil
  | cons first tail =>
      rw [taken, List.cons_append, List.cons_prefix_cons] at shorter
      rcases shorter with ⟨rfl, shorter⟩
      have same : munch first (tail ++ cut) = munch first rest := by
        rw [List.prefix_iff_eq_take.1 shorter]
        apply munch_take
        rw [taken, List.length_cons, List.length_append]
        omega
      rw [List.cons_append, lexemes_munch, same, taken, ← List.cons_append,
        List.drop_left]

/--
The lexemes up to any of them stay when the text behind them is cut off, unless
the last one is the name of a function.
-/
theorem lexemes_texts_append {text cut : Text} {left right : List Lexeme}
    (split : standard.lexemes text = left ++ right)
    (whole : ∀ last ∈ left.getLast?, last.kind ≠ .functionName)
    (begins : cut <+: Lexeme.texts right) :
    standard.lexemes (Lexeme.texts left ++ cut) =
      left ++ standard.lexemes cut := by
  fun_induction standard.lexemes text generalizing left with
  | case1 =>
      rcases List.append_eq_nil_iff.1 split.symm with ⟨rfl, rfl⟩
      rfl
  | case2 character rest hypothesis =>
      rw [bite_standard] at hypothesis
      rw [← lexemes_cons] at split
      rcases boundary_cases split with
        rfl | ⟨others, leftSplit, behind⟩ | ⟨leftSplit, kind, _⟩
      · rfl
      · have wholeOthers : ∀ last ∈ others.getLast?,
            last.kind ≠ .functionName := by
          intro last isLast
          apply whole last
          rw [leftSplit, List.getLast?_append, isLast]
          rfl
        have texts := congrArg Lexeme.texts behind
        rw [texts_lexemes, Lexeme.texts_append] at texts
        have later : Lexeme.texts others ++ cut <+: (character :: rest).drop
            (munch character rest).text.length := by
          rw [texts]
          exact (List.prefix_append_right_inj _).2 begins
        rw [leftSplit, Lexeme.texts_append, List.append_assoc]
        change standard.lexemes ((munch character rest).text ++ _) = _
        rw [lexemes_append_of_begins later, hypothesis behind wholeOthers,
          List.append_assoc]
      · exact absurd kind (whole _ (by rw [leftSplit]; rfl))

/--
The lexemes up to any of them are those of the text up to there, unless the
last one is the name of a function.
-/
theorem lexemes_texts_left {text : Text} {left right : List Lexeme}
    (split : standard.lexemes text = left ++ right)
    (whole : ∀ last ∈ left.getLast?, last.kind ≠ .functionName) :
    standard.lexemes (Lexeme.texts left) = left := by
  have cut := lexemes_texts_append split whole List.nil_prefix
  rw [List.append_nil, lexemes_nil, List.append_nil] at cut
  exact cut

theorem lexemes_texts_middle {text : Text} {left middle right : List Lexeme}
    (split : standard.lexemes text = left ++ (middle ++ right))
    (whole : ∀ last ∈ middle.getLast?, last.kind ≠ .functionName) :
    standard.lexemes (Lexeme.texts middle) = middle :=
  lexemes_texts_left (lexemes_texts_right split) whole

end RuleTable

namespace Token

theorem take_layout (start count : Nat) (lexemes : List Lexeme) :
    (layout start lexemes).take count =
      layout start (lexemes.take count) := by
  induction lexemes generalizing start count with
  | nil => simp
  | cons lexeme lexemes hypothesis =>
      cases count with
      | zero => rfl
      | succ count => simp [hypothesis]

theorem drop_layout (start count : Nat) (lexemes : List Lexeme) :
    (layout start lexemes).drop count =
      layout (start + Text.size (Lexeme.texts (lexemes.take count)))
        (lexemes.drop count) := by
  induction lexemes generalizing start count with
  | nil => simp
  | cons lexeme lexemes hypothesis =>
      cases count with
      | zero => simp
      | succ count => simp [hypothesis, Nat.add_assoc]

/-- A token lies behind the lexemes before it. -/
theorem getElem?_layout {start index : Nat} {lexemes : List Lexeme}
    {token : Token} (found : (layout start lexemes)[index]? = some token) :
    lexemes[index]? = some token.toLexeme ∧
      token.start = start + Text.size (Lexeme.texts (lexemes.take index)) ∧
      token.stop =
        start + Text.size (Lexeme.texts (lexemes.take (index + 1))) := by
  induction lexemes generalizing start index with
  | nil => simp at found
  | cons lexeme lexemes hypothesis =>
      cases index with
      | zero =>
          cases found
          simp [stop, size]
      | succ index =>
          rcases hypothesis found with ⟨member, begins, ends⟩
          refine ⟨member, ?_, ?_⟩
          · rw [begins, List.take_succ_cons, Lexeme.texts_cons,
              Text.size_append, Nat.add_assoc]
          · rw [ends, List.take_succ_cons, Lexeme.texts_cons,
              Text.size_append, Nat.add_assoc]

end Token

theorem tokens_tokenize (source : Text) :
    (tokenize source).tokens =
      Token.layout 0 (RuleTable.standard.lexemes source) :=
  tokens_scanAll RuleTable.standard source

/-- Lexemes in the middle of a source are found where they lie, and alone. -/
theorem tokenize_middle {source : Text} {left middle right : List Lexeme}
    (split : RuleTable.standard.lexemes source = left ++ (middle ++ right))
    (whole : ∀ last ∈ middle.getLast?, last.kind ≠ .functionName) :
    Text.slice? (Text.size (Lexeme.texts left))
          (Text.size (Lexeme.texts (left ++ middle))) source =
        some (Lexeme.texts middle) ∧
      (tokenize (Lexeme.texts middle)).tokens =
        Token.layout 0 middle := by
  constructor
  · have slice := Text.slice?_append (Lexeme.texts left)
      (Lexeme.texts middle) (Lexeme.texts right)
    rw [List.append_assoc, ← Lexeme.texts_append, ← Lexeme.texts_append,
      ← split, RuleTable.texts_lexemes] at slice
    rw [Lexeme.texts_append, Text.size_append]
    exact slice
  · rw [tokens_tokenize, RuleTable.lexemes_texts_middle split whole]

/-- The stretch of a list from one place to another ends with what is there. -/
theorem getLast?_drop_take {lexemes : List Lexeme} {i j : Nat}
    {last : Lexeme} (ordered : i ≤ j) (atLast : lexemes[j]? = some last) :
    ((lexemes.take (j + 1)).drop i).getLast? = some last := by
  have inside := (List.getElem?_eq_some_iff.1 atLast).1
  have long : i ≤ (lexemes.take j).length := by
    rw [List.length_take]
    exact Nat.le_min.2 ⟨ordered, Nat.le_trans ordered (Nat.le_of_lt inside)⟩
  rw [List.take_add_one, atLast, Option.toList_some,
    List.drop_append_of_le_length long, List.getLast?_concat]

/-- A part of a source between two boundaries has the tokens that lie there. -/
theorem tokenize_slice {source : Text} {i j : Nat} {first last : Token}
    (ordered : i ≤ j) (atFirst : (tokenize source).tokens[i]? = some first)
    (atLast : (tokenize source).tokens[j]? = some last)
    (whole : last.kind ≠ .functionName) :
    ∃ cut, Text.slice? first.start last.stop source = some cut ∧
      (tokenize cut).tokens.map (Token.raise first.start) =
        ((tokenize source).tokens.take (j + 1)).drop i := by
  let lexemes := RuleTable.standard.lexemes source
  rw [tokens_tokenize] at atFirst atLast
  rcases Token.getElem?_layout atFirst with ⟨_, start, _⟩
  rcases Token.getElem?_layout atLast with ⟨member, _, stop⟩
  rw [Nat.zero_add] at start stop
  have upToFirst : (lexemes.take (j + 1)).take i = lexemes.take i := by
    rw [List.take_take, Nat.min_eq_left (Nat.le_succ_of_le ordered)]
  have joined : lexemes.take i ++ (lexemes.take (j + 1)).drop i =
      lexemes.take (j + 1) := by
    rw [← upToFirst, List.take_append_drop]
  have split : lexemes = lexemes.take i ++
      ((lexemes.take (j + 1)).drop i ++ lexemes.drop (j + 1)) := by
    rw [← List.append_assoc, joined, List.take_append_drop]
  have wholeMiddle : ∀ lexeme ∈ ((lexemes.take (j + 1)).drop i).getLast?,
      lexeme.kind ≠ .functionName := by
    intro lexeme isLast
    rw [getLast?_drop_take ordered member] at isLast
    cases isLast
    exact whole
  rcases tokenize_middle split wholeMiddle with ⟨slice, tokens⟩
  rw [joined, ← start, ← stop] at slice
  refine ⟨_, slice, ?_⟩
  rw [tokens, tokens_tokenize, Token.map_raise_layout, Token.take_layout,
    Token.drop_layout, upToFirst, start, Nat.add_zero, Nat.zero_add]

/-- A source has the tokens from one of them on from its start on. -/
theorem tokenize_suffix {source : Text} {i : Nat} {first : Token}
    (atFirst : (tokenize source).tokens[i]? = some first) :
    ∃ rest, Text.drop? first.start source = some rest ∧
      (tokenize rest).tokens.map (Token.raise first.start) =
        (tokenize source).tokens.drop i := by
  let lexemes := RuleTable.standard.lexemes source
  rw [tokens_tokenize] at atFirst
  rcases Token.getElem?_layout atFirst with ⟨_, start, _⟩
  rw [Nat.zero_add] at start
  have split : lexemes = lexemes.take i ++ lexemes.drop i :=
    (List.take_append_drop i lexemes).symm
  have behind := Text.drop?_size_append (Lexeme.texts (lexemes.take i))
    (Lexeme.texts (lexemes.drop i))
  rw [← Lexeme.texts_append, ← split, RuleTable.texts_lexemes, ← start]
    at behind
  refine ⟨_, behind, ?_⟩
  rw [tokens_tokenize, RuleTable.lexemes_texts_right split, tokens_tokenize,
    Token.map_raise_layout, Token.drop_layout, start, Nat.add_zero,
    Nat.zero_add]

/-- A token that is no name of a function is found in its text alone. -/
theorem tokenize_alone {source : Text} {token : Token}
    (member : token ∈ (tokenize source).tokens)
    (whole : token.kind ≠ .functionName) :
    (tokenize token.text).tokens = [{ token with start := 0 }] := by
  have among := List.mem_map_of_mem (f := Token.toLexeme) member
  rw [tokens_tokenize, Token.map_toLexeme_layout] at among
  rcases List.append_of_mem among with ⟨left, right, split⟩
  have wholeAlone : ∀ last ∈ [token.toLexeme].getLast?,
      last.kind ≠ .functionName := by
    intro last isLast
    cases isLast
    exact whole
  have alone := (tokenize_middle split wholeAlone).2
  rw [Lexeme.texts_cons, Lexeme.texts_nil, List.append_nil] at alone
  exact alone

/--
Tokens are local: between the start of a token and the end of another one that
is no name of a function, a source has the tokens that it has there as a
whole.  In particular it has the tokens from any of them on, and each of them
in its own text.
-/
theorem tokenize_local (source : Text) :
    (∀ i j first last, i ≤ j →
        (tokenize source).tokens[i]? = some first →
        (tokenize source).tokens[j]? = some last →
        last.kind ≠ .functionName →
        ∃ cut, Text.slice? first.start last.stop source = some cut ∧
          (tokenize cut).tokens.map (Token.raise first.start) =
            ((tokenize source).tokens.take (j + 1)).drop i) ∧
      (∀ i first, (tokenize source).tokens[i]? = some first →
        ∃ rest, Text.drop? first.start source = some rest ∧
          (tokenize rest).tokens.map (Token.raise first.start) =
            (tokenize source).tokens.drop i) ∧
      (∀ token ∈ (tokenize source).tokens, token.kind ≠ .functionName →
        (tokenize token.text).tokens = [{ token with start := 0 }]) := by
  refine ⟨?_, ?_, ?_⟩
  · intro i j first last ordered atFirst atLast whole
    exact tokenize_slice ordered atFirst atLast whole
  · intro i first atFirst
    exact tokenize_suffix atFirst
  · intro token member whole
    exact tokenize_alone member whole

/-- A type name that has been cut off a longer word is found alone as well. -/
theorem tokenize_local_glued :
    (tokenize "Listing x".toList).tokens[0]? =
        some { kind := .typeName, text := "List".toList, start := 0 } ∧
      ∃ cut, Text.slice? 0 4 "Listing x".toList = some cut ∧
        (tokenize cut).tokens.map (Token.raise 0) =
          ((tokenize "Listing x".toList).tokens.take 1).drop 0 :=
  have atFirst : (tokenize "Listing x".toList).tokens[0]? =
      some { kind := .typeName, text := "List".toList, start := 0 } := by
    decide +kernel
  ⟨atFirst, (tokenize_local "Listing x".toList).1 0 0 _ _ (Nat.le_refl 0)
    atFirst atFirst (by decide)⟩

end BayesLex
