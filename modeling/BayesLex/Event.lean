import BayesLex.Span
import BayesLex.Text.Quoted

/-!
# What happens during a scan

Every step of a scan and its end are reported as events, for a log.
-/

namespace BayesLex

/-- The importance of a report. -/
inductive Level where
  | trace
  | debug
  | info
  deriving DecidableEq

/-- The name of a level. -/
def Level.name : Level → String
  | trace => "TRACE"
  | debug => "DEBUG"
  | info => "INFO"

/-- A step of a scan, or its end. -/
inductive Event where
  /-- A rule matched the bytes from `start` to `stop`. -/
  | matched (rule : String) (start stop : Nat)
  /-- No rule matched at `start`. -/
  | unrecognized (character : Char) (start : Nat)
  /-- The end of the source has been reached. -/
  | finished (cursor : Nat)
  /-- The scan has been cut short. -/
  | cancelled (cursor : Nat)
  deriving DecidableEq

namespace Event

/-- The importance of an event. -/
def level : Event → Level
  | unrecognized _ _ => .debug
  | _ => .trace

/-- What is reported of an event. -/
def message : Event → Text
  | matched rule start stop =>
      "[".toList ++ rule.toList ++ "] ".toList ++ Text.ofBounds start stop
  | unrecognized character start =>
      "unrecognized character ".toList ++ Quoted.character character ++
        " at ".toList ++ Text.ofNat start
  | finished cursor => "scan finished at ".toList ++ Text.ofNat cursor
  | cancelled cursor => "scan cancelled at ".toList ++ Text.ofNat cursor

end Event

end BayesLex
