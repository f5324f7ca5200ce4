namespace ChatNotify

/-- A point in time: nanoseconds since the start of the year 1970, UTC. -/
structure Instant where
  nanos : Int
  deriving Repr, DecidableEq, Inhabited

/-- A span of time that is not negative, in nanoseconds. -/
structure Span where
  nanos : Nat
  deriving Repr, DecidableEq, Inhabited

/-- The number of nanoseconds in a second. -/
def nanosPerSecond : Nat := 1000000000

namespace Instant

instance : LT Instant := ⟨fun a b => a.nanos < b.nanos⟩

instance : LE Instant := ⟨fun a b => a.nanos ≤ b.nanos⟩

instance (a b : Instant) : Decidable (a < b) := Int.decLt _ _

instance (a b : Instant) : Decidable (a ≤ b) := Int.decLe _ _

theorem le_refl (a : Instant) : a ≤ a :=
  Int.le_refl _

theorem le_trans {a b c : Instant} (hab : a ≤ b) (hbc : b ≤ c) : a ≤ c :=
  Int.le_trans hab hbc

theorem le_of_lt {a b : Instant} (h : a < b) : a ≤ b :=
  Int.le_of_lt h

theorem le_antisymm {a b : Instant} (hab : a ≤ b) (hba : b ≤ a) : a = b := by
  cases a
  cases b
  exact congrArg mk (Int.le_antisymm hab hba)

theorem not_lt {a b : Instant} : ¬ a < b ↔ b ≤ a :=
  Int.not_lt

theorem not_le {a b : Instant} : ¬ a ≤ b ↔ b < a :=
  Int.not_le

/-- The start of the year 1970. -/
def epoch : Instant := ⟨0⟩

/-- The later of two instants. -/
def latest (a b : Instant) : Instant :=
  if a ≤ b then b else a

theorem le_latest_left (a b : Instant) : a ≤ a.latest b := by
  unfold latest
  split
  · next h => exact h
  · exact le_refl a

theorem le_latest_right (a b : Instant) : b ≤ a.latest b := by
  unfold latest
  split
  · exact le_refl b
  · next h => exact le_of_lt (not_le.1 h)

theorem latest_eq_or_eq (a b : Instant) : a.latest b = a ∨ a.latest b = b := by
  unfold latest
  split
  · exact .inr rfl
  · exact .inl rfl

/-- The instant a span later. -/
def after (instant : Instant) (span : Span) : Instant :=
  ⟨instant.nanos + span.nanos⟩

/-- The whole seconds since the epoch, rounded down. -/
def unixSeconds (instant : Instant) : Int :=
  instant.nanos.fdiv nanosPerSecond

/-- The whole milliseconds since the epoch, rounded towards it. -/
def unixMillis (instant : Instant) : Int :=
  instant.nanos.tdiv 1000000

end Instant

namespace Span

instance : LT Span := ⟨fun a b => a.nanos < b.nanos⟩

instance : LE Span := ⟨fun a b => a.nanos ≤ b.nanos⟩

instance (a b : Span) : Decidable (a < b) := Nat.decLt _ _

instance (a b : Span) : Decidable (a ≤ b) := Nat.decLe _ _

/-- A span of whole seconds. -/
def ofSeconds (seconds : Nat) : Span := ⟨seconds * nanosPerSecond⟩

/-- The whole seconds in the span. -/
def seconds (span : Span) : Nat := span.nanos / nanosPerSecond

/-- A span of whole milliseconds. -/
def ofMillis (millis : Nat) : Span := ⟨millis * 1000000⟩

/-- The shorter of two spans. -/
def shortest (a b : Span) : Span :=
  if a ≤ b then a else b

end Span

end ChatNotify
