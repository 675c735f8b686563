import BayesLex.Proofs.Scan

/-!
# The lexer refines a scan by offsets

`RuleTable.plainTokens` tells at a byte offset of a source which tokens follow.
Every rule is tried there with an empty memo, the first one that applies gives
its tokens, and the scan goes on where they end; where no rule applies, one
character is an error, and at the end of the source nothing follows.

Each offset is looked at on its own, so nothing is shared between two rules or
two places, and no token waits for its turn.  The main statement is that the
lexer, with its memo and its pending tokens, hands out the same tokens, however
many of them it is asked for.
-/

namespace BayesLex

namespace RuleTable

/--
The match of the first rule that applies at an offset of a source, where every
rule is tried with an empty memo.
-/
def freshMatch? (table : RuleTable) (source : Text) (offset : Nat) :
    Option Match :=
  table.findSome? fun rule =>
    (rule.matchAt? source offset {}).bind fun answer => answer.1

/-- At a place of the source the match is the one of the table's winner. -/
theorem freshMatch?_append (table : RuleTable) (left rest : Text) :
    table.freshMatch? (left ++ rest) (Text.size left) =
      (table.winner? rest).map Winner.found := by
  have tried : ∀ rule : Rule,
      ((rule.matchAt? (left ++ rest) (Text.size left) {}).bind fun answer =>
        answer.1) = rule.recognise rest := by
    intro rule
    have empty := WordMemo.sound_empty (left ++ rest)
    rw [Rule.matchAt?, Text.drop?_size_append]
    exact (rule.match?_fst empty).1
  simp only [freshMatch?, winner?, tried, List.map_findSome?,
    Function.comp_def, Option.map_map, Option.map_id']

/-- A match at an offset holds at least one byte. -/
theorem size_pos_of_freshMatch? {table : RuleTable} {source : Text}
    {offset : Nat} {found : Match}
    (matched : table.freshMatch? source offset = some found) :
    0 < Text.size found.text := by
  rcases List.exists_of_findSome?_eq_some matched with ⟨rule, _, applied⟩
  rcases Option.bind_eq_some_iff.1 applied with ⟨answer, tried, result⟩
  rcases Option.map_eq_some_iff.1 tried with ⟨rest, behind, rfl⟩
  rcases (Text.drop?_eq_some_iff _ _ _).1 behind with ⟨left, rfl, rfl⟩
  have empty := WordMemo.sound_empty (left ++ rest)
  rw [(rule.match?_fst empty).1] at result
  have covers := Rule.covers_of_recognise result
  exact Nat.pos_of_ne_zero fun nothing =>
    covers.text_ne_nil ((Text.size_eq_zero_iff _).1 nothing)

/-- The tokens of a source from a byte offset on. -/
def plainTokens (table : RuleTable) (source : Text) (offset : Nat) :
    List Token :=
  if offset < Text.size source then
    match matched : table.freshMatch? source offset with
    | some found =>
        have := size_pos_of_freshMatch? matched
        Token.layout offset found.lexemes ++
          plainTokens table source (offset + Text.size found.text)
    | none =>
        match Text.characterAt? offset source with
        | some character =>
            have := character.utf8Size_pos
            { kind := .error, text := [character], start := offset } ::
              plainTokens table source (offset + character.utf8Size)
        | none => []
  else
    []
termination_by Text.size source - offset

/-- Where something remains, the plain scan goes on behind the table's match. -/
theorem plainTokens_append_cons (table : RuleTable) (left rest : Text)
    (character : Char) :
    table.plainTokens (left ++ character :: rest) (Text.size left) =
      Token.layout (Text.size left) (table.bite character rest).lexemes ++
        table.plainTokens (left ++ character :: rest)
          (Text.size left + Text.size (table.bite character rest).text) := by
  have first := table.freshMatch?_append left (character :: rest)
  have inside : Text.size left < Text.size (left ++ character :: rest) := by
    have positive := character.utf8Size_pos
    rw [Text.size_append, Text.size_cons]
    omega
  rw [plainTokens, if_pos inside, bite]
  split
  · rename_i found matched
    rw [matched] at first
    cases wins : table.winner? (character :: rest) with
    | some winner =>
        rw [wins] at first
        cases first
        rfl
    | none =>
        rw [wins] at first
        cases first
  · rename_i nothing
    rw [nothing] at first
    rw [Option.map_eq_none_iff.1 first.symm, Text.characterAt?,
      Text.drop?_size_append]
    simp [Match.stray, Match.lexemes, Match.text]

theorem plainTokens_of_end (table : RuleTable) (source : Text) :
    table.plainTokens source (Text.size source) = [] := by
  rw [plainTokens, if_neg (Nat.lt_irrefl _)]

/-- At a place of the source the plain scan gives the lexemes of what follows. -/
theorem plainTokens_append (table : RuleTable) (left rest : Text) :
    table.plainTokens (left ++ rest) (Text.size left) =
      Token.layout (Text.size left) (table.lexemes rest) := by
  fun_induction lexemes table rest generalizing left with
  | case1 =>
      rw [List.append_nil]
      exact table.plainTokens_of_end left
  | case2 character rest hypothesis =>
      have whole := (table.covers_bite character rest).text_append_drop
      have behind := hypothesis
        (left ++ (table.bite character rest).text)
      rw [Text.size_append, List.append_assoc, whole] at behind
      rw [plainTokens_append_cons, behind, Token.layout_append]
      rfl

end RuleTable

namespace Lexer

/-- A scan that is not cancelled hands out what it owes, in its order. -/
theorem Sound.tokens_take {lexer : Lexer} (sound : lexer.Sound)
    (scanning : lexer.phase = .scanning) (count : Nat) :
    (lexer.take false count).tokens = lexer.future.take count := by
  induction count generalizing lexer with
  | zero => rfl
  | succ count hypothesis =>
      have request := sound.request false
      have owed := request.future
      cases outcome : (lexer.next false).token with
      | none =>
          rcases request.done outcome with ⟨_, nothingPending, atEnd⟩
          rw [outcome, Lexer.future, nothingPending, atEnd rfl scanning,
            RuleTable.lexemes_nil] at owed
          rw [take_succ_of_none count outcome, ← owed]
          rfl
      | some token =>
          have phase := (request.progress outcome).1
          rw [outcome, Option.toList_some, List.singleton_append] at owed
          rw [take_succ_of_some count outcome, ← owed, List.take_succ_cons,
            ← hypothesis (request.sound sound) (phase.trans scanning)]

end Lexer

/--
A scan by any table of rules gives the tokens of the plain scan by offsets, and
a lexer that is asked for some tokens hands out the first of them.
-/
theorem drain_eq_plainTokens (table : RuleTable) (source : Text) :
    ((Lexer.new table source).drain false).tokens =
        table.plainTokens source 0 ∧
      ∀ count, ((Lexer.new table source).take false count).tokens =
        (table.plainTokens source 0).take count := by
  have sound := Lexer.sound_new table source
  have plain : table.plainTokens source 0 = (Lexer.new table source).future :=
    table.plainTokens_append [] source
  rw [plain]
  exact ⟨sound.tokens_drain rfl, sound.tokens_take rfl⟩

end BayesLex
