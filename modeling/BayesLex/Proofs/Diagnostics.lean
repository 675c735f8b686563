import BayesLex.Listing
import BayesLex.Proofs.Separators
import BayesLex.Proofs.Position

/-!
# Diagnostics point at the characters they name

A diagnostic names a character, a line and a column.  The character is found
there, since the tokens of a source start at places of it, and since a token of
kind `error` is a single character, which is never a line feed.  The tokens
follow one another, so the positions of their errors ascend.
-/

namespace BayesLex

namespace Grammar

open Vocabulary

variable {character : Char} {rest text : Text}

theorem mark_of_error (error : (mark character text).first.kind = .error) :
    (mark character text).first.text = [character] ∧
      isBlank character = false := by
  unfold mark at error ⊢
  split at error
  · cases error
  · split at error
    · cases error
    · split at error
      · cases error
      · rename_i noDelimiter solid
        simp only [if_neg noDelimiter, if_neg solid]
        exact ⟨rfl, Bool.eq_false_iff.2 solid⟩

/-- An error is the character that it begins with, and no white space. -/
theorem munch_of_error (error : (munch character rest).first.kind = .error) :
    (munch character rest).first.text = [character] ∧
      isBlank character = false := by
  have marked : munch character rest = mark character (character :: rest) :=
    munch_eq_mark (by rw [error]; decide)
  rw [marked] at error ⊢
  exact mark_of_error error

end Grammar

/-- An error among the lexemes of a text is one character, and no blank. -/
theorem RuleTable.text_of_error {text : Text} {lexeme : Lexeme}
    (member : lexeme ∈ standard.lexemes text) (error : lexeme.kind = .error) :
    ∃ character, lexeme.text = [character] ∧ isBlank character = false := by
  rcases List.append_of_mem member with ⟨left, right, split⟩
  have lexed := lexed_lexemes text
  rw [split] at lexed
  rcases lexed.right.exists_munch with ⟨character, rest, _, rfl, _⟩
  exact ⟨character, Grammar.munch_of_error error⟩

/-- Lexemes that are not empty start one behind the other. -/
theorem Token.pairwise_start_layout (start : Nat) {lexemes : List Lexeme}
    (solid : ∀ lexeme ∈ lexemes, lexeme.text ≠ []) :
    (layout start lexemes).Pairwise fun earlier later =>
      earlier.start < later.start := by
  induction lexemes generalizing start with
  | nil => exact .nil
  | cons lexeme lexemes hypothesis =>
      rcases List.forall_mem_cons.1 solid with ⟨first, others⟩
      have positive : Text.size lexeme.text ≠ 0 :=
        fun empty => first ((Text.size_eq_zero_iff _).1 empty)
      rw [layout_cons]
      refine .cons ?_ (hypothesis _ others)
      intro later member
      have behind := (bounds_of_mem_layout member).1
      exact Nat.lt_of_lt_of_le
        (Nat.lt_add_of_pos_right (Nat.pos_of_ne_zero positive)) behind

/-- A token of a source stands at a place of it. -/
theorem exists_place_of_mem {source : Text} {token : Token}
    (member : token ∈ (tokenize source).tokens) :
    token.toLexeme ∈ RuleTable.standard.lexemes source ∧
      ∃ before after, source = before ++ (token.text ++ after) ∧
        Text.size before = token.start := by
  rw [tokens_tokenize] at member
  rcases List.getElem?_of_mem member with ⟨index, found⟩
  rcases Token.getElem?_layout found with ⟨lexeme, start, _⟩
  rw [Nat.zero_add] at start
  rcases List.getElem?_eq_some_iff.1 lexeme with ⟨inside, same⟩
  refine ⟨List.mem_of_getElem? lexeme, _, Lexeme.texts
    ((RuleTable.standard.lexemes source).drop (index + 1)), ?_, start.symm⟩
  rw [← Lexeme.texts_cons, ← Lexeme.texts_append, ← same,
    ← List.drop_eq_getElem_cons inside, List.take_append_drop,
    RuleTable.texts_lexemes]

namespace TokenStream

theorem errorOf?_eq_some {token : Token} {error : LexicalError}
    (found : errorOf? token = some error) :
    token.kind = .error ∧ token.text.head? = some error.character ∧
      token.span = error.span := by
  unfold errorOf? at found
  split at found
  · rename_i kind
    rcases Option.map_eq_some_iff.1 found with ⟨character, head, rfl⟩
    exact ⟨kind, head, rfl⟩
  · cases found

/-- Tokens of kind `error` that are single characters are the errors. -/
theorem map_filterMap_errorOf? {tokens : List Token}
    (single : ∀ token ∈ tokens, token.kind = .error →
      ∃ character, token.text = [character]) :
    (tokens.filterMap errorOf?).map
        (fun error => ([error.character], error.span)) =
      (tokens.filter fun token => token.kind = .error).map
        (fun token => (token.text, token.span)) := by
  induction tokens with
  | nil => rfl
  | cons token tokens hypothesis =>
      rcases List.forall_mem_cons.1 single with ⟨first, others⟩
      by_cases error : token.kind = .error
      · rcases first error with ⟨character, text⟩
        have made : errorOf? token =
            some { character, span := token.span } := by
          rw [errorOf?, if_pos error, text]
          rfl
        rw [List.filterMap_cons_some made, List.map_cons, hypothesis others,
          List.filter_cons_of_pos (by simpa using error), List.map_cons, text]
      · have missed : errorOf? token = none := if_neg error
        rw [List.filterMap_cons_none missed, hypothesis others,
          List.filter_cons_of_neg (by simpa using error)]

end TokenStream

/-- An error of a source stands at a place, before its character. -/
theorem exists_place_of_error {source : Text} {error : LexicalError}
    (member : error ∈ (tokenize source).errors) :
    ∃ before after, source = before ++ error.character :: after ∧
      Text.size before = error.span.start ∧ error.character ≠ '\n' ∧
      error.span.size = error.character.utf8Size := by
  rcases List.mem_filterMap.1 member with ⟨token, among, found⟩
  rcases TokenStream.errorOf?_eq_some found with ⟨kind, head, span⟩
  rcases exists_place_of_mem among with ⟨lexeme, before, after, split, start⟩
  rcases RuleTable.text_of_error lexeme kind with ⟨character, text, solid⟩
  rw [text] at head split
  cases head
  refine ⟨before, after, split, ?_, ?_, ?_⟩
  · rw [← span]
    exact start
  · rintro newline
    rw [newline] at solid
    cases solid
  · have covered : error.span.size = Text.size token.text := by
      rw [← span]
      exact Nat.add_sub_cancel_left token.start token.size
    rw [covered, text, Text.size_cons, Text.size_nil, Nat.add_zero]

theorem LexicalError.located_eq (error : LexicalError) (file : SourceFile) :
    error.located file =
      file.title ++ [':'] ++ (file.position error.span.start).label ++
        ": unrecognized character ".toList ++
        Quoted.character error.character := by
  have words : ": unrecognized character ".toList =
      ": ".toList ++ "unrecognized character ".toList := rfl
  unfold located complaint
  rw [words]
  simp only [List.append_assoc]

/-- The tokens of kind `error` are the errors, in their order. -/
theorem map_errors_tokenize (source : Text) :
    (tokenize source).errors.map
        (fun error => ([error.character], error.span)) =
      ((tokenize source).tokens.filter fun token => token.kind = .error).map
        (fun token => (token.text, token.span)) := by
  apply TokenStream.map_filterMap_errorOf?
  intro token member error
  rcases RuleTable.text_of_error (exists_place_of_mem member).1 error with
    ⟨character, text, _⟩
  exact ⟨character, text⟩

/-- The character of an error is found where the error is reported. -/
theorem characterIn?_of_mem_errors {source : Text} {error : LexicalError}
    (member : error ∈ (tokenize source).errors) (path : Option String) :
    ((SourceFile.of source path).position error.span.start).characterIn?
      source = some error.character := by
  rcases exists_place_of_error member with
    ⟨before, after, split, start, other, _⟩
  have located :=
    SourceFile.position_size_append before (error.character :: after) path
  rw [← split, start] at located
  rw [located, split]
  exact Position.characterIn?_behind before after other

/-- Errors are reported at ascending positions. -/
theorem pairwise_errors_tokenize (source : Text) (path : Option String) :
    (tokenize source).errors.Pairwise fun earlier later =>
      ((SourceFile.of source path).position earlier.span.start).compare
        ((SourceFile.of source path).position later.span.start) = .lt := by
  have starts := Token.pairwise_start_layout 0
    (RuleTable.standard.lexemes_solid source)
  rw [← tokens_tokenize] at starts
  apply List.pairwise_filterMap.2
  apply starts.imp_of_mem
  intro earlier later earlierMember laterMember ordered error found other
    foundToo
  rcases TokenStream.errorOf?_eq_some found with ⟨_, _, span⟩
  rcases TokenStream.errorOf?_eq_some foundToo with ⟨_, _, spanToo⟩
  rcases (exists_place_of_mem earlierMember).2 with
    ⟨left, right, split, start⟩
  rcases (exists_place_of_mem laterMember).2 with
    ⟨left', right', split', start'⟩
  have ascend := SourceFile.compare_position (split.symm.trans split')
    (by rw [start, start']; exact ordered) path
  rw [← split, start, start'] at ascend
  rw [← span, ← spanToo]
  exact ascend

/--
Every diagnostic points at the character it names.  There is one for each token
of kind `error`, in the order of the source; the character that it names stands
at the line and in the column that it reports, and is all that the error covers;
and the positions reported ascend.
-/
theorem diagnostics_point (source : Text) (path : Option String) :
    let file := SourceFile.of source path
    let stream := tokenize source
    let place := fun error : LexicalError => file.position error.span.start
    Listing.diagnostics file stream =
        stream.errors.map (fun error =>
          file.title ++ [':'] ++ (place error).label ++
            ": unrecognized character ".toList ++
            Quoted.character error.character) ∧
      stream.errors.map (fun error => ([error.character], error.span)) =
        (stream.tokens.filter fun token => token.kind = .error).map
          (fun token => (token.text, token.span)) ∧
      (∀ error ∈ stream.errors,
        (place error).characterIn? source = some error.character ∧
          error.span.size = error.character.utf8Size) ∧
      stream.errors.Pairwise fun earlier later =>
        (place earlier).compare (place later) = .lt := by
  intro file stream place
  have messages : Listing.diagnostics file stream =
      stream.errors.map (fun error =>
        file.title ++ [':'] ++ (place error).label ++
          ": unrecognized character ".toList ++
          Quoted.character error.character) :=
    List.map_congr_left fun error _ => error.located_eq file
  have points : ∀ error ∈ stream.errors,
      (place error).characterIn? source = some error.character ∧
        error.span.size = error.character.utf8Size := by
    intro error member
    rcases exists_place_of_error member with ⟨_, _, _, _, _, size⟩
    exact ⟨characterIn?_of_mem_errors member path, size⟩
  exact ⟨messages, map_errors_tokenize source, points,
    pairwise_errors_tokenize source path⟩

/-- An error on a second line, behind an error of two bytes and a tabulator. -/
theorem diagnostics_point_indented :
    { character := '@', span := { start := 4, stop := 5 } } ∈
        (tokenize "é\n\t@".toList).errors ∧
      (SourceFile.of "é\n\t@".toList none).position 4 =
        { line := 2, column := 2 } ∧
      ((SourceFile.of "é\n\t@".toList none).position 4).characterIn?
          "é\n\t@".toList = some '@' ∧
        (5 - 4 : Nat) = Char.utf8Size '@' :=
  have member : { character := '@', span := { start := 4, stop := 5 } } ∈
      (tokenize "é\n\t@".toList).errors := by
    decide +kernel
  ⟨member, by decide +kernel,
    (diagnostics_point "é\n\t@".toList none).2.2.1 _ member⟩

end BayesLex
