import BayesLex.Event
import BayesLex.RuleTable

/-!
# The lexer

The lexer scans a source on demand.  At every place the rules of its table
are tried in order and the first match wins; where no rule matches, a single
character becomes a token of kind `error` and the scan goes on behind it.
Tokens of a match that have not been handed out yet are pending.

A scan ends at the end of the source, or earlier when it is asked to cancel.
That request is heeded between two matches only, and an ended scan never goes
on.
-/

namespace BayesLex

/-- Whether a scan may yield more tokens. -/
inductive Phase where
  | scanning
  | done
  deriving DecidableEq

/-- A scan of one source as far as it has come. -/
structure Lexer where
  table : RuleTable
  source : Text
  /-- The byte offset behind the last match. -/
  cursor : Nat
  /-- The text behind the last match. -/
  remaining : Text
  /-- Tokens of the last match that have not been handed out. -/
  pending : List Token
  memo : WordMemo
  phase : Phase
  /-- Whether the scan has been cut short. -/
  cancelled : Bool

/-- What one request to a lexer brings about. -/
structure Advance where
  token : Option Token
  events : List Event
  lexer : Lexer

/-- What several requests to a lexer bring about. -/
structure Harvest where
  tokens : List Token
  events : List Event
  lexer : Lexer

namespace Lexer

/-- The lexer at the beginning of a source. -/
def new (table : RuleTable) (source : Text) : Lexer where
  table
  source
  cursor := 0
  remaining := source
  pending := []
  memo := {}
  phase := .scanning
  cancelled := false

/-- Pass a match, whose first token is handed out. -/
def pass (lexer : Lexer) (event : Event) (found : Match) (memo : WordMemo) :
    Advance where
  token := some { found.first with start := lexer.cursor }
  events := [event]
  lexer :=
    { lexer with
      cursor := lexer.cursor + Text.size found.text
      remaining := lexer.remaining.drop found.text.length
      pending :=
        Token.layout (lexer.cursor + Text.size found.first.text) found.others
      memo }

/-- Match at the cursor, where `character` stands. -/
def step (lexer : Lexer) (character : Char) : Advance :=
  match lexer.table.firstMatch lexer.cursor lexer.remaining lexer.memo with
  | (some winner, memo) =>
      let stop := lexer.cursor + Text.size winner.found.text
      lexer.pass (.matched winner.rule.name lexer.cursor stop)
        winner.found memo
  | (none, memo) =>
      lexer.pass (.unrecognized character lexer.cursor)
        { first := { kind := .error, text := [character] }, others := [] } memo

/-- Ask for the next token, or to cancel the scan. -/
def next (cancel : Bool) (lexer : Lexer) : Advance :=
  match lexer.pending, lexer.phase, lexer.remaining with
  | token :: pending, _, _ =>
      { token := some token, events := [], lexer := { lexer with pending } }
  | [], .done, _ => { token := none, events := [], lexer }
  | [], .scanning, [] =>
      { token := none
        events := [.finished lexer.cursor]
        lexer := { lexer with phase := .done } }
  | [], .scanning, character :: _ =>
      if cancel then
        { token := none
          events := [.cancelled lexer.cursor]
          lexer := { lexer with phase := .done, cancelled := true } }
      else
        lexer.step character

/--
Ask for at most `count` more tokens, behind the tokens and events in `tokens`
and `events`, latest first.
-/
def takeFrom (cancel : Bool) (tokens : List Token) (events : List Event) :
    Nat → Lexer → Harvest
  | 0, lexer => { tokens := tokens.reverse, events := events.reverse, lexer }
  | count + 1, lexer =>
      match lexer.next cancel with
      | { token := none, events := new, lexer } =>
          { tokens := tokens.reverse
            events := (new.reverse ++ events).reverse
            lexer }
      | { token := some token, events := new, lexer } =>
          takeFrom cancel (token :: tokens) (new.reverse ++ events) count lexer

/-- Ask for `count` tokens, and no more once the scan has ended. -/
def take (cancel : Bool) (count : Nat) (lexer : Lexer) : Harvest :=
  takeFrom cancel [] [] count lexer

/--
Ask until the scan has ended.  Every token covers a character, so there are
no more tokens than are pending and characters remain.
-/
def drain (cancel : Bool) (lexer : Lexer) : Harvest :=
  lexer.take cancel (lexer.pending.length + lexer.remaining.length + 1)

end Lexer

end BayesLex
