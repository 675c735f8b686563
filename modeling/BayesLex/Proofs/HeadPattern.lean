import BayesLex.Proofs.Application
import BayesLex.Proofs.Regex.Groups
import BayesLex.Proofs.Regex.Nesting
import BayesLex.Proofs.StandardTable

/-!
# A rule for heads is a pattern

A rule for heads measures the word at its place and compares one character.  It
stands for a regular expression in which a first group captures the word and a
second one the character.  Here this expression is read for any character, its
match is cut into lexemes, and both rules are found to recognise the same.

The main statement is about applications with a memo that other calls have
left.  Only one of the two rules looks at it, but it is never noticed.
-/

namespace BayesLex

namespace RegexReader

/-- A character without a meaning of its own stands for itself. -/
theorem begin_of_not_isMeta (reader : RegexReader) {character : Char}
    (plain : Regex.isMeta character = false) :
    reader.begin character =
      some (reader.push (.leaf (.one (.single character)))) := by
  unfold begin
  split <;> first | rfl | cases plain

/-- Behind a backslash every other one does so as well. -/
theorem ofEscape?_of_isMeta {character : Char}
    (special : Regex.isMeta character = true) :
    Assertion.ofEscape? character = none ∧
      CharClass.ofEscape? character = some (.single character) := by
  have all : (Regex.metaCharacters.all fun character =>
      Assertion.ofEscape? character = none &&
        CharClass.ofEscape? character = some (.single character)) = true := by
    decide +kernel
  have found :=
    List.all_eq_true.1 all character (List.contains_iff_mem.1 special)
  rw [Bool.and_eq_true, decide_eq_true_eq, decide_eq_true_eq] at found
  exact found

theorem step_of_escaped {reader : RegexReader} {character : Char}
    (escaped : reader.mode = .escaped)
    (special : Regex.isMeta character = true) :
    reader.step character =
      some (reader.push (.leaf (.one (.single character)))) := by
  rcases ofEscape?_of_isMeta special with ⟨noAssertion, charClass⟩
  simp only [step, escaped, noAssertion, charClass]
  rfl

/-- An escaped character at the beginning of a group is that character. -/
theorem foldlM_step_escape {reader : RegexReader}
    (opened : reader.mode = .opened) (character : Char) :
    (Regex.escape [character]).foldlM step reader =
      some (reader.enterCapture.push
        (.leaf (.one (.single character)))) := by
  rw [Regex.escape, List.flatMap_singleton]
  cases special : Regex.isMeta character with
  | true =>
      have first : reader.step '\\' =
          some { reader.enterCapture with mode := .escaped } :=
        step_of_opened opened (by decide)
      rw [if_pos rfl, List.foldlM_cons, first, Option.bind_eq_bind,
        Option.bind_some, List.foldlM_cons, step_of_escaped rfl special]
      rfl
  | false =>
      have different : character ≠ '?' := by
        rintro rfl
        cases special
      rw [if_neg Bool.false_ne_true, List.foldlM_cons,
        step_of_opened opened different, begin_of_not_isMeta _ special]
      rfl

end RegexReader

namespace Regex

/-- An expression for a word in a group, and `opener` behind it in another. -/
def headExpression (opener : Char) : Text :=
  "([A-Za-z_]\\w*)(".toList ++ escape [opener] ++ ")".toList

/-- A word that begins like an identifier, and a character behind it. -/
def callHead (opener : Char) : Regex :=
  (wordThen .wordStarts (.ofClass .word) opener).anchored

/-- The reader in front of the character behind the word. -/
def headReader : RegexReader where
  frame :=
    { items :=
        [.group (some 1) (.sequence
          [{ regex := .one .wordStarts, height := 2 },
            .repeated (.leaf (.one (.ofClass .word))) ⟨0, none, true⟩])] }
  outer := [{ items := [.leaf (.assertion .textStart)] }]
  groups := 1
  mode := .opened

theorem foldlM_step_head :
    ("^(?:".toList ++ "([A-Za-z_]\\w*)(".toList).foldlM RegexReader.step {} =
      some headReader := by
  decide +kernel

/-- What stands behind the character ends its group and the whole. -/
theorem finish_head (opener : Char) :
    (((")".toList ++ ")".toList).foldlM RegexReader.step
        (headReader.enterCapture.push (.leaf (.one (.single opener))))).bind
      RegexReader.finish) =
      some { regex := callHead opener, height := 7 } := by
  rfl

theorem fits_callHead (opener : Char) : (callHead opener).fits = true := by
  have words : (CharSet.ofClass .word).ranges.length ≤ 1000 := by
    decide +kernel
  have one : (CharSet.single opener).ranges.length = 1 := rfl
  have starts : CharSet.wordStarts.ranges.length = 3 := rfl
  rw [fits, Bool.or_eq_true, decide_eq_true_eq]
  apply Or.inl
  simp only [callHead, anchored, wordThen, weightBound, one, starts,
    Option.getD_none, maxWeight]
  -- Only the bound counts here, and the ranges are too many to be unfolded.
  generalize (CharSet.ofClass .word).ranges.length = count at words
  omega

/-- The expression is read, whatever the character is. -/
theorem parse_headExpression (opener : Char) :
    parse? (Rule.anchor (headExpression opener)) = some (callHead opener) := by
  have regroup (first second third last : Text) :
      first ++ (second ++ third ++ last) ++ last =
        (first ++ second) ++ (third ++ (last ++ last)) := by
    simp only [List.append_assoc]
  have read := calc
    (Rule.anchor (headExpression opener)).foldlM RegexReader.step {}
      = (("^(?:".toList ++ "([A-Za-z_]\\w*)(".toList) ++
          (escape [opener] ++ (")".toList ++ ")".toList))).foldlM
          RegexReader.step {} :=
        congrArg (List.foldlM RegexReader.step {}) (regroup _ _ _ _)
    _ = (escape [opener] ++ (")".toList ++ ")".toList)).foldlM
          RegexReader.step headReader :=
        RegexReader.foldlM_step_append foldlM_step_head _
    _ = (")".toList ++ ")".toList).foldlM RegexReader.step
          (headReader.enterCapture.push (.leaf (.one (.single opener)))) :=
        RegexReader.foldlM_step_append
          (RegexReader.foldlM_step_escape rfl opener) _
  rw [parse?, read, finish_head]
  simp only [fits_callHead]
  rfl

/-- A word that begins like an identifier, with the character behind it. -/
theorem find?_callHead {opener : Char} (noWord : isWord opener = false)
    (text : Text) :
    (callHead opener).automaton.find? text =
      if text.head?.any isWordStart = true ∧
          (text.dropWhile isWord).head? = some opener then
        some (runOverCall (text.takeWhile isWord).length)
      else
        none := by
  have inWord : (CharSet.ofClass .word).contains = isWord := rfl
  have found :=
    find?_wordThen CharSet.contains_word_of_wordStarts noWord text
  rw [CharSet.contains_wordStarts, inWord] at found
  exact found

end Regex

/-- The two groups cut a match into the word and the character behind it. -/
theorem Emission.cut_runOverCall (nameKind openerKind : Kind) {word : Text}
    (solid : word ≠ []) (opener : Char) (rest : Text) :
    (groups [nameKind, openerKind]).cut (word ++ opener :: rest)
        (Regex.runOverCall word.length) =
      some
        { first := { kind := nameKind, text := word }
          others := [{ kind := openerKind, text := [opener] }] } := by
  have long : 0 < word.length := List.length_pos_iff.2 solid
  have word? : (Regex.runOverCall word.length).group? 1 =
      some ⟨0, word.length⟩ := rfl
  have opener? : (Regex.runOverCall word.length).group? 2 =
      some ⟨word.length, word.length + 1⟩ := rfl
  have taken : (Regex.runOverCall word.length).taken = word.length + 1 := rfl
  simp [cut, pieces, word?, opener?, taken, long, Match.ofLexemes?]

namespace Rule

/-- The rule of an expression for a word and a character behind it. -/
def callPattern (name : String) (opener : Char) (nameKind openerKind : Kind) :
    Rule where
  name
  matcher :=
    .pattern (anchor (Regex.headExpression opener))
      (Regex.callHead opener).engine (.groups [nameKind, openerKind])

theorem pattern_eq_callPattern (name : String) (opener : Char)
    (nameKind openerKind : Kind) :
    pattern name (Regex.headExpression opener)
        (.groups [nameKind, openerKind]) =
      .ok (callPattern name opener nameKind openerKind) :=
  pattern_eq_ok (Regex.parse_headExpression opener) (by rintro _ ⟨⟩; rfl) name

/-- The rule of the expression recognises what the rule for heads does. -/
theorem recognise_callPattern (name : String) {opener : Char}
    (noWord : isWord opener = false) (nameKind openerKind : Kind)
    (text : Text) :
    (callPattern name opener nameKind openerKind).recognise text =
      ({ name, matcher := .head opener nameKind openerKind } : Rule).recognise
        text := by
  have recognised : (callPattern name opener nameKind openerKind).recognise
        text =
      ((Regex.callHead opener).automaton.find? text).bind
        ((Emission.groups [nameKind, openerKind]).cut text) := rfl
  rw [recognised, Regex.find?_callHead noWord, recognise_head]
  split
  · rename_i begins
    rcases List.head?_eq_some_iff.1 begins.2 with ⟨rest, behind⟩
    have cut := Emission.cut_runOverCall nameKind openerKind
      (takeWhile_isWord_ne_nil begins.1) opener rest
    rw [← behind, List.takeWhile_append_dropWhile] at cut
    exact cut
  · rfl

/--
A rule for heads is a pattern.  Whatever rules have been applied to a source
before, and wherever, at every place of the source it has the same outcome as
the rule of the expression that captures a word and the character behind it, if
this is no word character.
-/
theorem head_eq_pattern (name : String) {opener : Char}
    (noWord : isWord opener = false) (nameKind openerKind : Kind) :
    ∃ head pattern,
      Rule.head name opener [nameKind, openerKind] = .ok head ∧
      Rule.pattern name (Regex.headExpression opener)
          (.groups [nameKind, openerKind]) = .ok pattern ∧
      ∀ (left rest : Text) (calls : List Call),
        let source := left ++ rest
        let memo := (Call.answers source calls {}).2
        ∃ outcome,
          (head.apply source (Text.size left) memo).1 = some outcome ∧
          (pattern.apply source (Text.size left) memo).1 = some outcome := by
  refine ⟨_, _, rfl, pattern_eq_callPattern name opener nameKind openerKind,
    ?_⟩
  intro left rest calls source memo
  have sound : memo.Sound source := Call.sound_answers source calls
  refine ⟨_, (apply_size_append _ sound).1, ?_⟩
  rw [← recognise_callPattern name noWord nameKind openerKind]
  exact (apply_size_append _ sound).1

/-- Inside of a word that another rule has measured, for a special character. -/
theorem head_eq_pattern_inside :
    let kinds := [Kind.functionName, .punctuation]
    let source := "f".toList ++ "oo(x".toList
    let other : Rule :=
      { name := "index", matcher := .head '[' .identifier .operator }
    let memo := (Call.answers source [Call.mk other 0] {}).2
    let word : Word := { start := 0, stop := 3, next := some '(' }
    let outcome : Outcome :=
      { stop := some 4
        tokens :=
          [{ kind := .functionName, text := "oo".toList, start := 1 },
            { kind := .punctuation, text := "(".toList, start := 3 }] }
    isWord '(' = false ∧
      Regex.headExpression '(' = "([A-Za-z_]\\w*)(\\()".toList ∧
      memo = { latest := some word, measured := 3, words := [word] } ∧
      ∃ head pattern,
        Rule.head "call" '(' kinds = .ok head ∧
        Rule.pattern "call" (Regex.headExpression '(') (.groups kinds) =
          .ok pattern ∧
        (head.apply source 1 memo).1 = some outcome ∧
        (pattern.apply source 1 memo).1 = some outcome := by
  intro kinds source other memo word outcome
  have noWord : isWord '(' = false := by decide +kernel
  rcases head_eq_pattern "call" noWord .functionName .punctuation with
    ⟨head, pattern, headMade, patternMade, same⟩
  rcases same "f".toList "oo(x".toList [Call.mk other 0] with
    ⟨found, headFinds, patternFinds⟩
  cases headMade
  have known : some found = some outcome :=
    headFinds.symm.trans (by decide +kernel)
  cases known
  refine ⟨noWord, by decide +kernel, by decide +kernel, _, pattern, rfl,
    patternMade, headFinds, patternFinds⟩

end Rule

end BayesLex
