import ChatNotify.Time.Instant

namespace ChatNotify

/-- A task in the background that wakes once in a period, and ends when it wakes and finds that what
it worked for is gone. -/
structure Ticker where
  period : Span

namespace Ticker

/-- The number of times at which the task wakes before a span of time has passed. -/
def wakeups (ticker : Ticker) (span : Span) : Nat :=
  (span.nanos - 1) / ticker.period.nanos

/-- Whether the task has ended after a span of time, what it worked for being gone from the start. -/
def hasEnded (ticker : Ticker) (span : Span) : Bool :=
  0 < ticker.wakeups span

end Ticker

end ChatNotify
