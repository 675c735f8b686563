import BayesLex.TokenStream

/-!
# Sessions with a lexer

In a session tokens are asked for one by one, in portions or all at once.
Flags that can be raised and lowered at any time tell whether the scan is to
be cancelled; the lexer looks at the flag attached last, if there is one.
-/

namespace BayesLex

/-- A request to a lexer or to the flags around it. -/
inductive Command where
  | next
  | take (count : Nat)
  | collect
  | raise (flag : Nat)
  | lower (flag : Nat)
  | attach (flag : Nat)
  deriving DecidableEq

/-- The answer to a request. -/
inductive Reply where
  | nothing
  | token (token : Option Token)
  | tokens (tokens : List Token)
  | stream (stream : TokenStream)
  deriving DecidableEq

/-- A lexer and the flags around it. -/
structure Session where
  lexer : Lexer
  raised : Nat → Bool
  attached : Option Nat

namespace Session

/-- A session with a new lexer: no flag is raised and none is attached. -/
def new (table : RuleTable) (source : Text) : Session where
  lexer := Lexer.new table source
  raised := fun _ => false
  attached := none

/-- Whether the scan is to be cancelled. -/
def cancel (session : Session) : Bool :=
  session.attached.any session.raised

/-- Set a flag to a value. -/
def mark (session : Session) (flag : Nat) (value : Bool) : Session :=
  { session with
    raised := fun other => if other = flag then value else session.raised other }

/-- Answer a request. -/
def perform (session : Session) : Command → Reply × List Event × Session
  | .next =>
      let advance := session.lexer.next session.cancel
      (.token advance.token, advance.events,
        { session with lexer := advance.lexer })
  | .take count =>
      let harvest := session.lexer.take session.cancel count
      (.tokens harvest.tokens, harvest.events,
        { session with lexer := harvest.lexer })
  | .collect =>
      let harvest := session.lexer.drain session.cancel
      (.stream { source := session.lexer.source, tokens := harvest.tokens },
        harvest.events, { session with lexer := harvest.lexer })
  | .raise flag => (.nothing, [], session.mark flag true)
  | .lower flag => (.nothing, [], session.mark flag false)
  | .attach flag => (.nothing, [], { session with attached := some flag })

end Session

end BayesLex
