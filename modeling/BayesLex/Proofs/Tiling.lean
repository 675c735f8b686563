import BayesLex.Proofs.Scan

/-!
# The tokens tile the source

A full scan by any table of rules comes to an end, and its tokens cover the
source from its beginning to its end without a gap and without an overlap.
None of them is empty, and the text of each is what the source has between
its offsets.  On the way the source is only ever cut between two characters.
-/

namespace BayesLex

/--
Tokens that cover a source from a byte offset to its end: each of them starts
where the one before it ends, is not empty, and has the text that stands there
in the source.
-/
def Tiles (source : Text) : Nat → List Token → Prop
  | offset, [] => offset = Text.size source
  | offset, token :: tokens =>
      token.start = offset ∧ token.text ≠ [] ∧
        Text.slice? token.start token.stop source = some token.text ∧
        Tiles source token.stop tokens

namespace Tiles

/-- Lexemes one behind the other tile what follows the text before them. -/
theorem layout (left : Text) (lexemes : List Lexeme)
    (solid : ∀ lexeme ∈ lexemes, lexeme.text ≠ []) :
    Tiles (left ++ Lexeme.texts lexemes) (Text.size left)
      (Token.layout (Text.size left) lexemes) := by
  induction lexemes generalizing left with
  | nil => simp [Tiles]
  | cons lexeme lexemes hypothesis =>
      rcases List.forall_mem_cons.1 solid with ⟨firstSolid, othersSolid⟩
      have others := hypothesis (left ++ lexeme.text) othersSolid
      rw [Text.size_append, List.append_assoc] at others
      refine ⟨rfl, firstSolid, ?_, ?_⟩
      · rw [Lexeme.texts_cons, ← List.append_assoc]
        exact Text.slice?_append left lexeme.text (Lexeme.texts lexemes)
      · rw [Lexeme.texts_cons]
        exact others

theorem slice?_of_mem {source : Text} {offset : Nat} {tokens : List Token}
    (tiles : Tiles source offset tokens) :
    ∀ token ∈ tokens,
      Text.slice? token.start token.stop source = some token.text := by
  induction tokens generalizing offset with
  | nil =>
      intro token impossible
      cases impossible
  | cons first others hypothesis =>
      rcases tiles with ⟨_, _, slice, rest⟩
      exact List.forall_mem_cons.2 ⟨slice, hypothesis rest⟩

end Tiles

theorem tiles_scanAll (table : RuleTable) (source : Text) :
    Tiles source 0 (scanAll table source).tokens := by
  have tiles := Tiles.layout [] (table.lexemes source)
    (table.lexemes_solid source)
  rw [List.nil_append, table.texts_lexemes] at tiles
  rw [tokens_scanAll]
  exact tiles

theorem reconstruct_scanAll (table : RuleTable) (source : Text) :
    (scanAll table source).reconstruct = source := by
  have texts : ∀ lexemes start,
      (Token.layout start lexemes).flatMap (fun token => token.text) =
        Lexeme.texts lexemes := by
    intro lexemes
    induction lexemes with
    | nil => exact fun _ => rfl
    | cons lexeme lexemes hypothesis =>
        intro start
        rw [Token.layout_cons, List.flatMap_cons, hypothesis,
          Lexeme.texts_cons]
  rw [TokenStream.reconstruct, tokens_scanAll, texts, table.texts_lexemes]

/--
Every cut that a lexer makes in its source falls between two characters: at
the cursor, behind the words it has measured, of which the memo answers with the
latest, and around the tokens that are pending.
-/
structure Lexer.CutsCleanly (lexer : Lexer) (source : Text) : Prop where
  cursor : Text.drop? lexer.cursor source = some lexer.remaining
  words : ∀ word ∈ lexer.memo.words,
    ∃ rest, Text.drop? word.stop source = some rest ∧ rest.head? = word.next
  latest : lexer.memo.latest = lexer.memo.words.head?
  pending : ∀ token ∈ lexer.pending,
    Text.slice? token.start token.stop source = some token.text

/-- A word measured in a source ends at a place of the source. -/
theorem Word.MeasuredIn.drop?_stop {word : Word} {source : Text}
    (measured : word.MeasuredIn source) :
    ∃ rest, Text.drop? word.stop source = some rest ∧
      rest.head? = word.next := by
  rcases measured with ⟨left, right, rfl, rfl⟩
  refine ⟨right.dropWhile isWord, ?_, rfl⟩
  rw [Text.drop?_eq_some_iff]
  refine ⟨left ++ right.takeWhile isWord, ?_, Text.size_append _ _⟩
  rw [List.append_assoc, List.takeWhile_append_dropWhile]

theorem Lexer.Sound.cutsCleanly {lexer : Lexer} (sound : lexer.Sound)
    (pending : ∀ token ∈ lexer.pending,
      Text.slice? token.start token.stop lexer.source = some token.text) :
    lexer.CutsCleanly lexer.source where
  cursor := sound.drop?_cursor
  words := fun word member => (sound.memo.words word member).drop?_stop
  latest := sound.memo.latest
  pending := pending

/-- A request to a lexer at the beginning keeps its cuts clean. -/
theorem cutsCleanly_take (table : RuleTable) (source : Text) (count : Nat) :
    ((Lexer.new table source).take false count).lexer.CutsCleanly source := by
  have sound := Lexer.sound_new table source
  rcases sound.take false count with ⟨soundAfter, owed⟩
  have sameSource := (sound.take_unchanged false count).1
  have cuts := soundAfter.cutsCleanly (by
    intro token member
    rw [sameSource]
    apply (tiles_scanAll table source).slice?_of_mem token
    -- a pending token is one of those that were owed at the beginning
    have whole : (scanAll table source).tokens =
        (Lexer.new table source).future := tokens_scanAll table source
    rw [whole, ← owed]
    exact List.mem_append_right _ (List.mem_append_left _ member))
  rw [sameSource] at cuts
  exact cuts

/--
A scan by any table of rules ends at the end of its source.  All its cuts fall
between two characters, and its tokens tile the source.
-/
theorem drain_tiles (table : RuleTable) (source : Text) :
    (∀ count, ((Lexer.new table source).take false count).lexer.CutsCleanly
        source) ∧
      ((Lexer.new table source).drain false).lexer.phase = .done ∧
      ((Lexer.new table source).drain false).lexer.cursor = Text.size source ∧
      Tiles source 0 ((Lexer.new table source).drain false).tokens ∧
      (scanAll table source).reconstruct = source := by
  have sound := Lexer.sound_new table source
  rcases sound.drain_done rfl with ⟨done, _, atEnd⟩
  refine ⟨cutsCleanly_take table source, done, ?_, tiles_scanAll table source,
    reconstruct_scanAll table source⟩
  have cuts : ((Lexer.new table source).drain false).lexer.CutsCleanly source :=
    cutsCleanly_take table source _
  rcases (Text.drop?_eq_some_iff _ _ _).1 cuts.cursor with
    ⟨left, split, cursor⟩
  rw [atEnd, List.append_nil] at split
  rw [← cursor, split]

end BayesLex
