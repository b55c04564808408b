import Rollout.Decimal.Shortest
/-!
# Spans of time

A span is a whole number of nanoseconds whose seconds fit into sixty-four bits. Its text uses the
largest of seconds, milliseconds, microseconds and nanoseconds with a non-zero whole part.
-/

namespace Rollout.Time

def nanosPerSecond : Nat := 1000000000

def nanosPerMilli : Nat := 1000000

/-- Spans have fewer nanoseconds than this. -/
def spanLimit : Nat := UInt64.size * nanosPerSecond

structure Span where
  nanos : Nat
  nanos_lt : nanos < spanLimit
  deriving DecidableEq

namespace Span

def ofSecs (n : UInt64) : Span :=
  ⟨n.toNat * nanosPerSecond, by
    have := n.toNat_lt
    simp only [spanLimit, UInt64.size, nanosPerSecond]
    omega⟩

def ofMillis (n : UInt64) : Span :=
  ⟨n.toNat * nanosPerMilli, by
    have := n.toNat_lt
    simp only [spanLimit, UInt64.size, nanosPerSecond, nanosPerMilli]
    omega⟩

/-- The span of `n` nanoseconds, if it is not too long. -/
def ofNanos? (n : Nat) : Option Span :=
  if h : n < spanLimit then some ⟨n, h⟩ else none

/-- The span of `n` nanoseconds, or the longest one. -/
def ofNanos (n : Nat) : Span :=
  ⟨min n (spanLimit - 1), by
    simp only [spanLimit, UInt64.size, nanosPerSecond]
    omega⟩

/-- `n` times the span, if that is still a span. -/
def times? (s : Span) (n : UInt32) : Option Span :=
  ofNanos? (s.nanos * n.toNat)

def secs (s : Span) : Nat := s.nanos / nanosPerSecond

def subsecNanos (s : Span) : Nat := s.nanos % nanosPerSecond

def isZero (s : Span) : Bool := s.nanos == 0

theorem nanos_ofMillis (n : UInt64) : (ofMillis n).nanos = n.toNat * nanosPerMilli := rfl

private def padded (width n : Nat) : List Char :=
  let ds := Nat.toDigits 10 n
  List.replicate (width - ds.length) '0' ++ ds

/-- `n` in units of `10 ^ places`, without trailing zeros. -/
private def decimal (places n : Nat) : String :=
  let whole := n / Nat.pow 10 places
  let rest := n % Nat.pow 10 places
  if rest = 0 then toString whole
  else
    let digits := (padded places rest).reverse.dropWhile (· == '0')
    toString whole ++ "." ++ String.ofList digits.reverse

/-- The text of a span, such as `2.5s`, `700ms` or `0ns`. -/
def text (s : Span) : String :=
  if nanosPerSecond ≤ s.nanos then decimal 9 s.nanos ++ "s"
  else if nanosPerMilli ≤ s.nanos then decimal 6 s.nanos ++ "ms"
  else if 1000 ≤ s.nanos then decimal 3 s.nanos ++ "µs"
  else decimal 0 s.nanos ++ "ns"

/-- The span in seconds as a double: whole seconds and fraction are rounded on their own and
then added. -/
def inSeconds (s : Span) : Decimal.Double :=
  .addMagnitude (.ofNat s.secs) (.ofRatio false s.subsecNanos nanosPerSecond)

end Span

end Rollout.Time
