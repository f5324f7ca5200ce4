namespace ChatNotify.Timeline

variable {σ τ α : Type}

/-- Where a task stands. -/
inductive Stage (τ α : Type) where
  | asleep (moment : Nat) (task : τ)
  | stuck (task : τ)
  | done (answer : α)

namespace Stage

/-- The answer of a task that is done. -/
def answer? : Stage τ α → Option α
  | .done answer => some answer
  | _ => none

/-- The moment at which a task wakes. -/
def moment? : Stage τ α → Option Nat
  | .asleep moment _ => some moment
  | _ => none

end Stage

/-- How tasks go on: from the state that they share and the moment, a task comes to its next stage, or
to none if it cannot go on. -/
abbrev Advance (σ τ α : Type) := σ → Nat → τ → Option (σ × Stage τ α)

/-- Lets one task go on, if it is awake. -/
def turn (advance : Advance σ τ α) (now : Nat) (state : σ) : Stage τ α → Option (σ × Stage τ α)
  | .asleep moment task => if moment ≤ now then advance state now task else none
  | .stuck task => advance state now task
  | .done _ => none

/-- Gives every task one turn; the truth value says whether one of them went on. -/
def round (advance : Advance σ τ α) (now : Nat) (state : σ) :
    List (Stage τ α) → σ × List (Stage τ α) × Bool
  | [] => (state, [], false)
  | stage :: rest =>
    match turn advance now state stage with
    | some (state, stage) =>
      let (state, rest, _) := round advance now state rest
      (state, stage :: rest, true)
    | none =>
      let (state, rest, moved) := round advance now state rest
      (state, stage :: rest, moved)

/-- The next moment at which a task wakes. -/
def nextMoment? (now : Nat) (stages : List (Stage τ α)) : Option Nat :=
  (stages.filterMap Stage.moment?).filter (now < ·) |>.min?

/-- Runs the tasks until nothing moves any more. At one moment every task that can go on does, in
the order of the list, again and again until none can; then time jumps to the next moment at which a
task wakes. `fuel` bounds the number of rounds and jumps. -/
def run (advance : Advance σ τ α) (fuel now : Nat) (state : σ) (stages : List (Stage τ α)) :
    σ × List (Stage τ α) :=
  match fuel with
  | 0 => (state, stages)
  | fuel + 1 =>
    match round advance now state stages with
    | (state, stages, true) => run advance fuel now state stages
    | (state, stages, false) =>
      match nextMoment? now stages with
      | some moment => run advance fuel moment state stages
      | none => (state, stages)

end ChatNotify.Timeline
