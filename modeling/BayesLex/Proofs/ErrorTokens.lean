import BayesLex.Proofs.Diagnostics
import BayesLex.Proofs.Finality
import BayesLex.Proofs.PlainScan
import BayesLex.Proofs.Queue

/-!
# Errors mark what no rule accepts

A token becomes an error in two ways: a lexer makes one of a character at which
no rule matches, and a rule makes one when its emission says so.  An emission
that names no kind at all says so too, since what its groups leave of a match
gets a kind nevertheless.

The main statement is about tables that name kinds, and never that of errors.
Then a token that is pending is no error, which every request keeps
(`Lexer.Request.pending_ne_error`).  So an error is handed out directly where the
scan has come to it, and the errors of a source are the characters at which the
scan stood and no rule matched.
-/

namespace BayesLex

theorem Span.eq_of_bounds {left right : Span} (start : left.start = right.start)
    (stop : left.stop = right.stop) : left = right := by
  cases left
  cases right
  cases start
  cases stop
  rfl

/-- A token of one character ends behind that character. -/
theorem Token.stop_of_text {token : Token} {character : Char}
    (single : token.text = [character]) :
    token.span.stop = token.start + character.utf8Size := by
  change token.start + Text.size token.text = _
  rw [single, Text.size_cons, Text.size_nil, Nat.add_zero]

/-- The kinds that an emission names. -/
def Emission.kinds : Emission → List Kind
  | one kind => [kind]
  | groups kinds => kinds

namespace Match

theorem kind_of_mem_single? {kind : Kind} {text : Text} {found : Match}
    (made : single? kind text = some found) :
    ∀ lexeme ∈ found.lexemes, lexeme.kind = kind := by
  cases text with
  | nil => cases made
  | cons character rest =>
      cases made
      intro lexeme member
      rw [List.mem_singleton.1 member]

end Match

namespace Rule

/-- A rule that names kinds gives its lexemes no other one. -/
theorem kind_mem_of_recognise {rule : Rule} {rest : Text} {found : Match}
    (names : rule.emission.kinds ≠ [])
    (finds : rule.recognise rest = some found) :
    ∀ lexeme ∈ found.lexemes, lexeme.kind ∈ rule.emission.kinds := by
  have recognised : rule.matcher.recognise rest = some found := by
    unfold recognise at finds
    split at finds
    · cases finds
    · exact finds
  cases form : rule.matcher with
  | pattern expression engine emission =>
      have same : rule.emission = emission := by rw [Rule.emission, form]
      rw [same] at names ⊢
      cases emission with
      | one kind =>
          rw [form] at recognised
          rcases Option.bind_eq_some_iff.1 recognised with ⟨run, _, cut⟩
          intro lexeme member
          exact List.mem_singleton.2 (Match.kind_of_mem_single? cut lexeme member)
      | groups kinds =>
          have kindsOf := kinds_sublist_of_recognise form finds
          -- The kind of what the groups leave is one of those that are named.
          have filler : kinds.getLast?.getD .error ∈ kinds := by
            have solid : kinds ≠ [] := names
            rw [List.getLast?_eq_some_getLast solid]
            exact List.getLast_mem solid
          intro lexeme member
          have among := kindsOf.subset (List.mem_map_of_mem member)
          rcases List.mem_append.1 among with named | left
          · exact named
          · rw [List.mem_singleton.1 left]
            exact filler
  | scanner scanner kind =>
      have same : rule.emission = .one kind := by rw [Rule.emission, form]
      rw [form] at recognised
      rw [same]
      intro lexeme member
      exact List.mem_singleton.2
        (Match.kind_of_mem_single? recognised lexeme member)
  | head opener nameKind openerKind =>
      have same : rule.emission = .groups [nameKind, openerKind] := by
        rw [Rule.emission, form]
      rw [form, Matcher.recognise, Option.ite_none_right_eq_some,
        Option.some.injEq] at recognised
      rcases recognised with ⟨_, rfl⟩
      rw [same]
      simp [Match.lexemes, Emission.kinds]

/-- A rule has no match at a place exactly if it recognises nothing there. -/
theorem outcome?_eq_empty_iff (rule : Rule) (left rest : Text) :
    rule.outcome? (left ++ rest) (Text.size left) = some {} ↔
      rule.recognise rest = none := by
  rw [outcome?_size_append, Option.some.injEq]
  cases rule.recognise rest with
  | none => exact iff_of_true rfl rfl
  | some found => exact iff_of_false nofun nofun

end Rule

namespace RuleTable

/-- A scan of a source comes to an offset. -/
def Reaches (table : RuleTable) (source : Text) (offset : Nat) : Prop :=
  ∃ count, ((Lexer.new table source).take false count).lexer.cursor = offset

/-- No rule of a table matches at an offset of a source. -/
def Rejects (table : RuleTable) (source : Text) (offset : Nat) : Prop :=
  ∀ rule ∈ table, rule.outcome? source offset = some {}

/-- Every rule of a table names kinds, and none of them the one of errors. -/
structure NamesNoError (table : RuleTable) : Prop where
  names : ∀ rule ∈ table, rule.emission.kinds ≠ []
  noError : ∀ rule ∈ table, Kind.error ∉ rule.emission.kinds

/-- A table rejects a place exactly if no rule wins there. -/
theorem rejects_iff_winner? (table : RuleTable) (left rest : Text) :
    table.Rejects (left ++ rest) (Text.size left) ↔
      table.winner? rest = none := by
  simp only [Rejects, Rule.outcome?_eq_empty_iff, winner?,
    List.findSome?_eq_none_iff, Option.map_eq_none_iff]

variable {table : RuleTable}

/-- A rule that wins gives no lexeme the kind of errors. -/
theorem NamesNoError.kind_ne_error (clean : table.NamesNoError) {rest : Text}
    {winner : Winner} (wins : table.winner? rest = some winner) :
    ∀ lexeme ∈ winner.found.lexemes, lexeme.kind ≠ .error := by
  rcases List.exists_of_findSome?_eq_some wins with ⟨rule, member, recognised⟩
  rcases Option.map_eq_some_iff.1 recognised with ⟨found, finds, rfl⟩
  intro lexeme among error
  have named := Rule.kind_mem_of_recognise (clean.names rule member) finds
    lexeme among
  rw [error] at named
  exact clean.noError rule member named

/-- A match with an error in it is a single character that no rule accepts. -/
theorem NamesNoError.bite_of_error (clean : table.NamesNoError)
    {character : Char} {rest : Text} {lexeme : Lexeme}
    (member : lexeme ∈ (table.bite character rest).lexemes)
    (error : lexeme.kind = .error) :
    table.winner? (character :: rest) = none ∧
      table.bite character rest = Match.stray character := by
  unfold bite at member ⊢
  cases wins : table.winner? (character :: rest) with
  | none => exact ⟨rfl, rfl⟩
  | some winner =>
      rw [wins] at member
      exact absurd error (clean.kind_ne_error wins lexeme member)

/-- Only the first token of a match is an error. -/
theorem NamesNoError.kind_others_bite (clean : table.NamesNoError)
    (character : Char) (rest : Text) :
    ∀ lexeme ∈ (table.bite character rest).others, lexeme.kind ≠ .error := by
  intro lexeme member error
  have stray := (clean.bite_of_error (List.mem_cons_of_mem _ member) error).2
  rw [stray] at member
  cases member

end RuleTable

namespace Lexer

variable {lexer : Lexer}

/-- A sound lexer with a table that names no error, and none is pending. -/
structure Clean (lexer : Lexer) : Prop extends lexer.Sound where
  table : lexer.table.NamesNoError
  pending : ∀ token ∈ lexer.pending, token.kind ≠ .error

theorem clean_new {table : RuleTable} (clean : table.NamesNoError)
    (source : Text) : (new table source).Clean where
  toSound := sound_new table source
  table := clean
  pending := nofun

/-- A request leaves no error pending. -/
theorem Request.clean {cancel : Bool} {advance : Advance}
    (request : lexer.Request cancel advance) (clean : lexer.Clean) :
    advance.lexer.Clean := by
  have sound := request.sound clean.toSound
  have table : advance.lexer.table.NamesNoError := by
    rw [request.unchanged.2]
    exact clean.table
  refine ⟨sound, table, ?_⟩
  cases request with
  | handOut token pending owed =>
      intro other member
      apply clean.pending other
      rw [owed]
      exact List.mem_cons_of_mem token member
  | ended | finish | interrupt => exact clean.pending
  | pass _ _ character rest =>
      intro token member
      let bite := lexer.table.bite character rest
      change token ∈ Token.layout _ bite.others at member
      have among := List.mem_map_of_mem (f := Token.toLexeme) member
      rw [Token.map_toLexeme_layout] at among
      exact clean.table.kind_others_bite character rest _ among

theorem Clean.take (clean : lexer.Clean) (cancel : Bool) (count : Nat) :
    (lexer.take cancel count).lexer.Clean :=
  @take_accumulates (fun _ _ lexer => lexer.Clean) cancel
    (fun _ _ _ clean => (clean.toSound.request cancel).clean clean)
    count [] [] lexer clean

/--
If the next token that a lexer owes is an error, then it stands at the cursor,
and no rule wins there.
-/
theorem Clean.cursor_of_error (clean : lexer.Clean) {token : Token}
    {others : List Token} (owed : lexer.future = token :: others)
    (error : token.kind = .error) :
    lexer.cursor = token.start ∧ ∃ character rest,
      lexer.remaining = character :: rest ∧ token.text = [character] ∧
        lexer.table.winner? lexer.remaining = none := by
  unfold future at owed
  cases waits : lexer.pending with
  | cons first pending =>
      rw [waits] at owed
      cases owed
      exact absurd error (clean.pending token (by simp [waits]))
  | nil =>
      rw [waits, List.nil_append] at owed
      cases remains : lexer.remaining with
      | nil =>
          rw [remains, RuleTable.lexemes_nil] at owed
          cases owed
      | cons character rest =>
          rw [remains, RuleTable.lexemes_cons, Match.lexemes,
            List.cons_append, Token.layout_cons] at owed
          cases owed
          have member := List.mem_cons_self
            (a := (lexer.table.bite character rest).first)
            (l := (lexer.table.bite character rest).others)
          rcases clean.table.bite_of_error member error with ⟨nothing, stray⟩
          refine ⟨rfl, character, rest, rfl, ?_, nothing⟩
          rw [stray]
          rfl

/-- Where no rule wins at the cursor, an error is owed. -/
theorem mem_future_of_winner? {character : Char} {rest : Text}
    (remains : lexer.remaining = character :: rest)
    (nothing : lexer.table.winner? (character :: rest) = none) :
    { kind := .error, text := [character], start := lexer.cursor } ∈
      lexer.future := by
  have stray : lexer.table.bite character rest = Match.stray character := by
    rw [RuleTable.bite, nothing]
  apply List.mem_append_right
  rw [remains, RuleTable.lexemes_cons, stray]
  exact List.mem_cons_self

/-- What follows the cursor of a sound lexer decides what is rejected there. -/
theorem Sound.rejects_iff (sound : lexer.Sound) :
    lexer.table.Rejects lexer.source lexer.cursor ↔
      lexer.table.winner? lexer.remaining = none := by
  rcases sound.place with ⟨left, source, cursor⟩
  rw [source, ← cursor]
  exact lexer.table.rejects_iff_winner? left lexer.remaining

theorem Sound.characterAt?_cursor (sound : lexer.Sound) :
    Text.characterAt? lexer.cursor lexer.source = lexer.remaining.head? := by
  rw [Text.characterAt?, sound.drop?_cursor]
  rfl

end Lexer

section Scans

variable {table : RuleTable} {source : Text}

/-- An error is a character at which the scan has stood and no rule matches. -/
theorem reaches_of_error (clean : table.NamesNoError) {token : Token}
    (member : token ∈ (scanAll table source).tokens)
    (error : token.kind = .error) :
    table.Reaches source token.start ∧ table.Rejects source token.start ∧
      ∃ character, token.text = [character] ∧
        Text.characterAt? token.start source = some character := by
  have start := Lexer.sound_new table source
  have whole : (scanAll table source).tokens = (Lexer.new table source).future :=
    start.tokens_drain rfl
  rw [whole] at member
  rcases List.append_of_mem member with ⟨before, behind, split⟩
  -- The scan stands before the token when all tokens before it are handed out.
  let lexer := ((Lexer.new table source).take false before.length).lexer
  have cleanThere : lexer.Clean :=
    (Lexer.clean_new clean source).take false before.length
  have owed : lexer.future = token :: behind := by
    have handedOut := start.tokens_take rfl before.length
    have rest := (start.take false before.length).2
    rw [handedOut, split, List.take_left] at rest
    exact List.append_cancel_left rest
  rcases cleanThere.cursor_of_error owed error with
    ⟨cursor, character, rest, remains, text, nothing⟩
  have unchanged := start.take_unchanged false before.length
  have sameSource : lexer.source = source := unchanged.1
  have sameTable : lexer.table = table := unchanged.2
  have rejects := cleanThere.toSound.rejects_iff.2 nothing
  have stands := cleanThere.toSound.characterAt?_cursor
  rw [sameTable, sameSource, cursor] at rejects
  rw [remains, sameSource, cursor] at stands
  exact ⟨⟨before.length, cursor⟩, rejects, character, text, stands⟩

/-- Where the scan stands before a character and no rule matches, is an error. -/
theorem error_of_reaches {offset : Nat} (reached : table.Reaches source offset)
    (rejected : table.Rejects source offset) {character : Char}
    (stands : Text.characterAt? offset source = some character) :
    { kind := .error, text := [character], start := offset } ∈
      (scanAll table source).tokens := by
  rcases reached with ⟨count, rfl⟩
  have start := Lexer.sound_new table source
  rcases start.take false count with ⟨sound, owed⟩
  rcases start.take_unchanged false count with ⟨sameSource, sameTable⟩
  have whole : (scanAll table source).tokens = (Lexer.new table source).future :=
    start.tokens_drain rfl
  have head := sound.characterAt?_cursor
  rw [sameSource] at head
  change Text.characterAt? _ source = _ at head
  rw [stands] at head
  rcases List.head?_eq_some_iff.1 head.symm with ⟨rest, remains⟩
  have nothing := sound.rejects_iff
  rw [sameSource, sameTable] at nothing
  have stray := nothing.1 rejected
  rw [whole, ← owed]
  apply List.mem_append_right
  apply Lexer.mem_future_of_winner? remains
  rw [sameTable, ← remains]
  exact stray

/-- The errors of a scan are the characters at which it stood in vain. -/
theorem mem_errors_scanAll (clean : table.NamesNoError)
    (error : LexicalError) :
    error ∈ (scanAll table source).errors ↔
      table.Reaches source error.span.start ∧
        table.Rejects source error.span.start ∧
        Text.characterAt? error.span.start source = some error.character ∧
        error.span.stop = error.span.start + error.character.utf8Size := by
  constructor
  · intro member
    rcases List.mem_filterMap.1 member with ⟨token, among, found⟩
    rcases TokenStream.errorOf?_eq_some found with ⟨kind, head, span⟩
    rcases reaches_of_error clean among kind with
      ⟨reached, rejected, character, text, stands⟩
    have same : error.character = character := by
      rw [text] at head
      exact (Option.some.inj head).symm
    rw [← span, same]
    exact ⟨reached, rejected, stands, Token.stop_of_text text⟩
  · rintro ⟨reached, rejected, stands, stop⟩
    have member := error_of_reaches reached rejected stands
    refine List.mem_filterMap.2 ⟨_, member, ?_⟩
    rw [TokenStream.errorOf?, if_pos rfl, List.head?_cons, Option.map_some,
      Option.some.injEq]
    exact congrArg (LexicalError.mk error.character)
      (Span.eq_of_bounds rfl ((Token.stop_of_text rfl).trans stop.symm))

/-- Two errors of a scan start at different offsets. -/
theorem pairwise_errors_scanAll (table : RuleTable) (source : Text) :
    (scanAll table source).errors.Pairwise fun earlier later =>
      earlier.span.start < later.span.start := by
  have starts := Token.pairwise_start_layout 0 (table.lexemes_solid source)
  rw [← tokens_scanAll] at starts
  apply List.pairwise_filterMap.2
  refine starts.imp ?_
  intro earlier later ordered error found other foundToo
  rw [← (TokenStream.errorOf?_eq_some found).2.2,
    ← (TokenStream.errorOf?_eq_some foundToo).2.2]
  exact ordered

/-- Where a scan stands before the end of the source, a character follows. -/
theorem exists_characterAt?_of_reaches {offset : Nat}
    (reached : table.Reaches source offset) (inside : offset < Text.size source) :
    ∃ character, Text.characterAt? offset source = some character := by
  rcases reached with ⟨count, rfl⟩
  have start := Lexer.sound_new table source
  have sound := (start.take false count).1
  have head := sound.characterAt?_cursor
  have remains := sound.cursor_lt_iff.1
  rw [(start.take_unchanged false count).1] at head remains
  exact ⟨_, head.trans (List.head?_eq_some_head (remains inside))⟩

end Scans

/--
If every rule of a table names kinds, and none the one of errors, then the
errors of a scan are the characters that no rule accepts.  A token of kind
`error` is one character, at which no rule matches; wherever the scan comes to
before the end and no rule matches, such a token starts; and the errors of the
stream are these characters, each of them once, in the order of the source.
-/
theorem errors_mark_unrecognized {table : RuleTable}
    (clean : table.NamesNoError) (source : Text) :
    let stream := scanAll table source
    (∀ token ∈ stream.tokens, token.kind = .error →
      (∃ character, token.text = [character]) ∧
        table.Rejects source token.start) ∧
    (∀ offset < Text.size source, table.Reaches source offset →
      table.Rejects source offset →
      ∃ token ∈ stream.tokens, token.kind = .error ∧ token.start = offset) ∧
    (∀ error : LexicalError, error ∈ stream.errors ↔
      table.Reaches source error.span.start ∧
        table.Rejects source error.span.start ∧
        Text.characterAt? error.span.start source = some error.character ∧
        error.span.stop = error.span.start + error.character.utf8Size) ∧
    stream.errors.Pairwise fun earlier later =>
      earlier.span.start < later.span.start := by
  intro stream
  refine ⟨?_, ?_, mem_errors_scanAll clean, pairwise_errors_scanAll table source⟩
  · intro token member error
    rcases reaches_of_error clean member error with
      ⟨_, rejected, character, text, _⟩
    exact ⟨⟨character, text⟩, rejected⟩
  · intro offset inside reached rejected
    rcases exists_characterAt?_of_reaches reached inside with
      ⟨character, stands⟩
    exact ⟨_, error_of_reaches reached rejected stands, rfl, rfl⟩

/-- A pair whose second character has no group, between two stray characters. -/
theorem errors_mark_unrecognized_around_pair :
    let source := "éab€".toList
    ∃ rule, Rule.pattern "pair" "(a)b".toList (.groups [.identifier]) =
        .ok rule ∧
      RuleTable.NamesNoError [rule] ∧
      (scanAll [rule] source).errors =
        [{ character := 'é', span := { start := 0, stop := 2 } },
          { character := '€', span := { start := 4, stop := 7 } }] ∧
      RuleTable.Rejects [rule] source 0 ∧ RuleTable.Rejects [rule] source 4 := by
  intro source
  let regex : Regex :=
    .seq (.assertion .textStart)
      (.seq (.group 1 (.one (.single 'a'))) (.one (.single 'b')))
  let rule : Rule :=
    { name := "pair"
      matcher :=
        .pattern (Rule.anchor "(a)b".toList) regex.engine
          (.groups [.identifier]) }
  have parsed : Regex.parse? (Rule.anchor "(a)b".toList) = some regex := by
    decide +kernel
  have made : Rule.pattern "pair" "(a)b".toList (.groups [.identifier]) =
      .ok rule :=
    Rule.pattern_eq_ok parsed (by rintro _ ⟨⟩; rfl) _
  have clean : RuleTable.NamesNoError [rule] :=
    { names := List.forall_mem_singleton.2 (List.cons_ne_nil _ _)
      noError := List.forall_mem_singleton.2
        (mt List.mem_singleton.1 (by decide)) }
  have errors : (scanAll [rule] source).errors =
      [{ character := 'é', span := { start := 0, stop := 2 } },
        { character := '€', span := { start := 4, stop := 7 } }] := by
    decide +kernel
  have marks := (errors_mark_unrecognized clean source).2.2.1
  rw [errors] at marks
  exact ⟨rule, made, clean, errors, ((marks _).1 List.mem_cons_self).2.1,
    ((marks _).1 (List.mem_cons_of_mem _ List.mem_cons_self)).2.1⟩

/-- An emission of no kinds makes one error of a match of two characters. -/
theorem errors_hold_match_without_kinds :
    let source := "ab".toList
    ∃ rule, Rule.pattern "pair" "ab".toList (.groups []) = .ok rule ∧
      Kind.error ∉ rule.emission.kinds ∧
      (scanAll [rule] source).tokens = [⟨⟨.error, "ab".toList⟩, 0⟩] ∧
      (scanAll [rule] source).errors =
        [{ character := 'a', span := { start := 0, stop := 2 } }] ∧
      ¬ RuleTable.Rejects [rule] source 0 := by
  intro source
  let regex : Regex :=
    .seq (.assertion .textStart)
      (.seq (.one (.single 'a')) (.one (.single 'b')))
  let rule : Rule :=
    { name := "pair"
      matcher :=
        .pattern (Rule.anchor "ab".toList) regex.engine (.groups []) }
  have parsed : Regex.parse? (Rule.anchor "ab".toList) = some regex := by
    decide +kernel
  have made : Rule.pattern "pair" "ab".toList (.groups []) = .ok rule :=
    Rule.pattern_eq_ok parsed (by rintro _ ⟨⟩; rfl) _
  have accepts : rule.outcome? source 0 ≠ some {} := by decide +kernel
  exact ⟨rule, made, nofun, by decide +kernel, by decide +kernel,
    fun rejects => accepts (rejects rule List.mem_cons_self)⟩

end BayesLex
