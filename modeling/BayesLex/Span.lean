import BayesLex.Text.Basic

/-!
# Spans

A span is a half-open range of byte offsets.  Its start never lies behind
its end: the pair of offsets of any other range is refused by `Span.of`.
-/

namespace BayesLex

/-- The bytes from `start` up to, and not including, `stop`. -/
structure Span where
  start : Nat
  stop : Nat
  ordered : start ≤ stop := by omega
  deriving DecidableEq

/-- Two offsets in the wrong order. -/
structure ReversedSpan where
  start : Nat
  stop : Nat
  deriving DecidableEq

/-- Two offsets with two points between them. -/
def Text.ofBounds (start stop : Nat) : Text :=
  Text.ofNat start ++ ['.', '.'] ++ Text.ofNat stop

/-- What is said about two offsets in the wrong order. -/
def ReversedSpan.message (span : ReversedSpan) : Text :=
  "span ".toList ++ Text.ofBounds span.start span.stop ++ " is reversed".toList

namespace Span

/-- The span between two offsets in ascending order. -/
def of (start stop : Nat) : Except ReversedSpan Span :=
  if ordered : start ≤ stop then
    .ok { start, stop, ordered }
  else
    .error { start, stop }

/-- The empty span at the beginning. -/
def origin : Span where
  start := 0
  stop := 0

/-- The number of bytes covered. -/
def size (span : Span) : Nat :=
  span.stop - span.start

/-- Whether no byte is covered. -/
def isEmpty (span : Span) : Bool :=
  span.start == span.stop

/-- Spans are ordered by their start and then by their end. -/
def compare (left right : Span) : Ordering :=
  (Ord.compare left.start right.start).then (Ord.compare left.stop right.stop)

/-- A span as `start..stop`. -/
def describe (span : Span) : Text :=
  Text.ofBounds span.start span.stop

end Span

end BayesLex
