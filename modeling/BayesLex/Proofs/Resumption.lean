import BayesLex.Proofs.Scan
import BayesLex.Session

/-!
# Interrupted scans lose nothing

A session may ask for tokens in any portions, raise and lower flags and attach
them in any order.  Whenever it is interrupted, the tokens handed out so far,
the tokens that are pending and the tokens of a fresh scan of the remaining
text, moved behind the cursor, are together the tokens of one scan without an
interruption.
-/

namespace BayesLex

namespace Token

/-- The same token so many bytes farther on. -/
def raise (offset : Nat) (token : Token) : Token :=
  { token with start := offset + token.start }

theorem map_raise_layout (offset start : Nat) (lexemes : List Lexeme) :
    (layout start lexemes).map (raise offset) =
      layout (offset + start) lexemes := by
  induction lexemes generalizing start with
  | nil => rfl
  | cons lexeme lexemes hypothesis =>
      rw [layout_cons, List.map_cons, hypothesis, layout_cons, Nat.add_assoc]
      rfl

end Token

/-- A scan of a text, moved behind an offset, gives its lexemes there. -/
theorem map_raise_scanAll (offset : Nat) (table : RuleTable) (text : Text) :
    (scanAll table text).tokens.map (Token.raise offset) =
      Token.layout offset (table.lexemes text) := by
  rw [tokens_scanAll, Token.map_raise_layout, Nat.add_zero]

/-- The tokens in an answer. -/
def Reply.handedOut : Reply → List Token
  | .nothing => []
  | .token answer => answer.toList
  | .tokens answer => answer
  | .stream answer => answer.tokens

namespace Session

/-- Answer requests one after the other, and collect the tokens handed out. -/
def run (session : Session) : List Command → List Token × Session
  | [] => ([], session)
  | command :: commands =>
      let (reply, _, next) := session.perform command
      let (tokens, last) := next.run commands
      (reply.handedOut ++ tokens, last)

/-- The lexer of a session is as sound as at the beginning, for the same scan. -/
structure Continues (session : Session) (table : RuleTable) : Prop where
  sound : session.lexer.Sound
  table : session.lexer.table = table

theorem continues_new (table : RuleTable) (source : Text) :
    (Session.new table source).Continues table where
  sound := Lexer.sound_new table source
  table := rfl

/-- An answer hands out what the lexer owes, and leaves the rest to be owed. -/
theorem Continues.perform {session : Session} {table : RuleTable}
    (continues : session.Continues table) (command : Command) :
    (session.perform command).2.2.Continues table ∧
      (session.perform command).1.handedOut ++
          (session.perform command).2.2.lexer.future =
        session.lexer.future := by
  have sound := continues.sound
  cases command with
  | next =>
      have request := sound.request session.cancel
      exact ⟨⟨request.sound sound, request.unchanged.2.trans continues.table⟩,
        request.future⟩
  | take count =>
      have unchanged := sound.take_unchanged session.cancel count
      rcases sound.take session.cancel count with ⟨soundAfter, owed⟩
      exact ⟨⟨soundAfter, unchanged.2.trans continues.table⟩, owed⟩
  | collect =>
      -- to collect is to take as many tokens as there can be
      have unchanged := sound.take_unchanged session.cancel
        (session.lexer.pending.length + session.lexer.remaining.length + 1)
      rcases sound.take session.cancel
        (session.lexer.pending.length + session.lexer.remaining.length + 1)
        with ⟨soundAfter, owed⟩
      exact ⟨⟨soundAfter, unchanged.2.trans continues.table⟩, owed⟩
  | raise flag | lower flag | attach flag =>
      exact ⟨⟨continues.sound, continues.table⟩, rfl⟩

theorem Continues.run {session : Session} {table : RuleTable}
    (continues : session.Continues table) (commands : List Command) :
    (session.run commands).2.Continues table ∧
      (session.run commands).1 ++ (session.run commands).2.lexer.future =
        session.lexer.future := by
  induction commands generalizing session with
  | nil => exact ⟨continues, rfl⟩
  | cons command commands hypothesis =>
      rcases continues.perform command with ⟨continuesNext, owed⟩
      rcases hypothesis continuesNext with ⟨continuesLast, owedRest⟩
      refine ⟨continuesLast, ?_⟩
      rw [← owed, ← owedRest, ← List.append_assoc]
      rfl

/--
Wherever a session stands, the tokens handed out, the tokens pending and a
fresh scan of what remains make up the tokens of one uninterrupted scan.
-/
theorem run_resumes (table : RuleTable) (source : Text)
    (commands : List Command) :
    let (yielded, session) := (Session.new table source).run commands
    yielded ++ session.lexer.pending ++
        (scanAll table session.lexer.remaining).tokens.map
          (Token.raise session.lexer.cursor) =
      (scanAll table source).tokens := by
  rcases (continues_new table source).run commands with ⟨continues, owed⟩
  have whole : (Session.new table source).lexer.future =
      (scanAll table source).tokens := (tokens_scanAll table source).symm
  rw [whole, Lexer.future, continues.table] at owed
  dsimp only
  rw [map_raise_scanAll, List.append_assoc]
  exact owed

end Session

end BayesLex
