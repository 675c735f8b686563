import BayesLex.Proofs.WordMemo
import BayesLex.Rule

/-!
# What a rule recognises

`Rule.recognise` tells what a rule finds at the beginning of a text, without a
memo and without an offset.  The main statements are that a rule tried at any
place of a source, with any sound memo, finds exactly that, and that what it
finds covers a beginning of the text by lexemes none of which is empty.
-/

namespace BayesLex

/-- A match covers a beginning of a text, and none of its lexemes is empty. -/
structure Match.Covers (found : Match) (text : Text) : Prop where
  begins : found.text <+: text
  solid : ∀ lexeme ∈ found.lexemes, lexeme.text ≠ []

namespace Match

theorem Covers.text_ne_nil {found : Match} {text : Text}
    (covers : found.Covers text) : found.text ≠ [] := by
  have first : found.first.text ≠ [] :=
    covers.solid found.first (List.mem_cons_self)
  simp [Match.text, lexemes, first]

/-- A match of a single lexeme covers what the lexeme is made of. -/
theorem covers_of_single? {kind : Kind} {taken text : Text} {found : Match}
    (begins : taken <+: text) (single : single? kind taken = some found) :
    found.Covers text := by
  cases taken with
  | nil => cases single
  | cons character rest =>
      cases single
      constructor
      · simpa [Match.text, lexemes] using begins
      · simp [lexemes]

theorem lexemes_of_ofLexemes? {list : List Lexeme} {found : Match}
    (made : ofLexemes? list = some found) : found.lexemes = list := by
  cases list with
  | nil => cases made
  | cons first others =>
      cases made
      rfl

end Match

namespace Emission

/--
The pieces of a match cover it without a gap, whichever of its groups took
part: each piece starts where the one before it ends.
-/
theorem texts_pieces (run : Run) (filler : Kind)
    (groupsWithin : ∀ index capture, run.group? index = some capture →
      capture.stop ≤ run.taken)
    (kinds : List Kind) (index place : Nat) (rest : Text)
    (reached : place ≤ run.taken) :
    Lexeme.texts (pieces run filler kinds index place rest) =
      rest.take (run.taken - place) := by
  induction kinds generalizing index place rest with
  | nil =>
      simp only [pieces]
      split
      · simp
      · have atEnd : run.taken - place = 0 := by omega
        simp [atEnd]
  | cons kind kinds hypothesis =>
      simp only [pieces]
      cases group : run.group? index with
      | none => exact hypothesis _ _ _ reached
      | some capture =>
          have bound := groupsWithin index capture group
          dsimp only
          split
          · rw [Lexeme.texts_cons, hypothesis _ _ _ bound, ← List.take_add]
            congr 1
            omega
          · exact hypothesis _ _ _ reached

/-- No piece of a match within the text is empty. -/
theorem pieces_solid (run : Run) (filler : Kind)
    (groupsWithin : ∀ index capture, run.group? index = some capture →
      capture.stop ≤ run.taken)
    (kinds : List Kind) (index place : Nat) (rest : Text)
    (long : run.taken ≤ place + rest.length) :
    ∀ lexeme ∈ pieces run filler kinds index place rest,
      lexeme.text ≠ [] := by
  induction kinds generalizing index place rest with
  | nil =>
      intro lexeme member
      simp only [pieces] at member
      split at member
      · rw [List.mem_singleton.1 member]
        exact List.ne_nil_of_length_pos (by rw [List.length_take]; omega)
      · cases member
  | cons kind kinds hypothesis =>
      simp only [pieces]
      cases group : run.group? index with
      | none => exact hypothesis _ _ _ long
      | some capture =>
          have bound := groupsWithin index capture group
          dsimp only
          split
          · refine List.forall_mem_cons.2 ⟨?_, hypothesis _ _ _ ?_⟩
            · exact List.ne_nil_of_length_pos (by rw [List.length_take]; omega)
            · rw [List.length_drop]
              omega
          · exact hypothesis _ _ _ long

/-- The lexemes of a match within a text cover its beginning. -/
theorem covers_of_cut {emission : Emission} {text : Text} {run : Run}
    {found : Match} (fits : run.Fits text)
    (made : emission.cut text run = some found) :
    found.Covers text := by
  cases emission with
  | one kind => exact Match.covers_of_single? (List.take_prefix _ _) made
  | groups kinds =>
      have lexemes := Match.lexemes_of_ofLexemes? made
      have groupsWithin : ∀ index capture, run.group? index = some capture →
          capture.stop ≤ run.taken :=
        fun _ _ group => fits.stop_le group
      constructor
      · rw [Match.text, lexemes,
          texts_pieces run _ groupsWithin kinds 1 0 text (Nat.zero_le _)]
        exact List.take_prefix _ _
      · rw [lexemes]
        apply pieces_solid run _ groupsWithin kinds 1 0 text
        have inside := fits.taken_le
        omega

end Emission

/-- What a matcher finds at the beginning of a text. -/
def Matcher.recognise (rest : Text) : Matcher → Option Match
  | .pattern _ engine emission =>
      (engine.find? rest).bind (emission.cut rest)
  | .scanner form kind => Match.single? kind (form.scan rest)
  | .head opener nameKind openerKind =>
      if rest.head?.any isWordStart = true ∧
          (rest.dropWhile isWord).head? = some opener then
        some
          { first := { kind := nameKind, text := rest.takeWhile isWord }
            others := [{ kind := openerKind, text := [opener] }] }
      else
        none

/-- The beginning of a head rule's match, which holds at least one character. -/
theorem takeWhile_isWord_ne_nil {rest : Text}
    (starts : rest.head?.any isWordStart = true) :
    rest.takeWhile isWord ≠ [] := by
  cases rest with
  | nil => cases starts
  | cons character rest =>
      have word : isWord character = true := isWord_of_isWordStart starts
      simp [word]

theorem Matcher.covers_of_recognise {matcher : Matcher} {rest : Text}
    {found : Match} (recognised : matcher.recognise rest = some found) :
    found.Covers rest := by
  cases matcher with
  | pattern expression engine emission =>
      rcases Option.bind_eq_some_iff.1 recognised with ⟨run, matched, cut⟩
      exact Emission.covers_of_cut (engine.fits matched) cut
  | scanner form kind =>
      exact Match.covers_of_single? (List.take_prefix _ _) recognised
  | head opener nameKind openerKind =>
      simp only [recognise, Option.ite_none_right_eq_some,
        Option.some.injEq] at recognised
      rcases recognised with ⟨⟨starts, next⟩, rfl⟩
      rcases List.head?_eq_some_iff.1 next with ⟨others, behind⟩
      have split : rest = rest.takeWhile isWord ++ opener :: others := by
        rw [← behind, List.takeWhile_append_dropWhile]
      constructor
      · refine ⟨others, ?_⟩
        simpa [Match.text, Match.lexemes] using split.symm
      · simp [Match.lexemes, takeWhile_isWord_ne_nil starts]

namespace Rule

/-- A rule of an expression has an engine, with a kind for each of its groups. -/
theorem patternBy_eq_ok_iff {compile? : Text → Option Engine} {name : String}
    {expression : Text} {emission : Emission} {rule : Rule} :
    patternBy compile? name expression emission = .ok rule ↔
      ∃ engine, compile? (anchor expression) = some engine ∧
        (∀ kinds, emission = .groups kinds →
          engine.groupCount = kinds.length) ∧
        rule =
          { name
            matcher := .pattern (anchor expression) engine emission } := by
  unfold patternBy
  cases compile? (anchor expression) with
  | none => simp
  | some engine =>
      cases emission with
      | one kind => simp [eq_comm]
      | groups kinds =>
          by_cases count : engine.groupCount = kinds.length
          · simp [count, eq_comm]
          · simp [count]

/-- An expression that has been read makes a rule with its automaton. -/
theorem pattern_eq_ok {expression : Text} {regex : Regex} {emission : Emission}
    (parsed : Regex.parse? (anchor expression) = some regex)
    (count : ∀ kinds, emission = .groups kinds →
      regex.groupCount = kinds.length) (name : String) :
    pattern name expression emission =
      .ok
        { name
          matcher := .pattern (anchor expression) regex.engine emission } :=
  patternBy_eq_ok_iff.2 ⟨_, Regex.compile?_of_parse? parsed, count, rfl⟩

/-- What a rule finds at the beginning of a text. -/
def recognise (rule : Rule) (rest : Text) : Option Match :=
  if rule.excludes rest then none else rule.matcher.recognise rest

theorem covers_of_recognise {rule : Rule} {rest : Text} {found : Match}
    (recognised : rule.recognise rest = some found) :
    found.Covers rest := by
  unfold recognise at recognised
  split at recognised
  · cases recognised
  · exact Matcher.covers_of_recognise recognised

/-- A word's text is cut off by the number of its bytes. -/
theorem split_measure (offset : Nat) (rest : Text) :
    (Text.split ((Word.measure offset rest).stop - offset) rest).1 =
      rest.takeWhile isWord := by
  have cut := Text.split_size_append (rest.takeWhile isWord)
    (rest.dropWhile isWord)
  rw [List.takeWhile_append_dropWhile] at cut
  rw [Word.measure, Nat.add_sub_cancel_left, cut]

/--
Tried at a place of a source with a sound memo, a rule finds what it
recognises in the text behind the place.
-/
theorem match?_fst {rule : Rule} {left rest : Text} {memo : WordMemo}
    (sound : memo.Sound (left ++ rest)) :
    (rule.match? (Text.size left) rest memo).1 = rule.recognise rest ∧
      (rule.match? (Text.size left) rest memo).2.Sound (left ++ rest) := by
  unfold match? recognise
  split
  · exact ⟨rfl, sound⟩
  · cases rule.matcher with
    | pattern expression engine emission => exact ⟨rfl, sound⟩
    | scanner form kind => exact ⟨rfl, sound⟩
    | head opener nameKind openerKind =>
        simp only [Matcher.recognise]
        cases starts : rest.head?.any isWordStart with
        | false =>
            rw [WordMemo.lookup_of_not_start memo _ starts]
            exact ⟨by simp, sound⟩
        | true =>
            rcases sound.lookup starts
              with ⟨word, memo', lookup, stop, next, sound'⟩
            simp only [lookup, stop, next, split_measure, Word.next_measure,
              true_and]
            split
            · exact ⟨rfl, sound'⟩
            · exact ⟨rfl, sound'⟩

end Rule

end BayesLex
