import ChatNotify.Digest.Verdict
import ChatNotify.Gate
import ChatNotify.Time.Timeline

namespace ChatNotify.Digest

/-- The entries delivered to a user in one digest. -/
structure Delivery where
  user : Id
  batch : List Entry

/-- Carries out the verdict on entries that were pending for a user. What has been added since is
not part of them: only as many entries are taken away as were looked at. -/
def settle (queues : Queues) (user : Id) (batch : List Entry) : Verdict → Queues × List Delivery
  | .keep => (queues, [])
  | .drop => (queues.removeFirst user batch.length, [])
  | .deliver => (queues.removeFirst user batch.length, [{ user := user, batch := batch }])

/-- Settles one user after another. -/
def settleAll (sources : Sources) (now : Instant) (queues : Queues) :
    List (Id × List Entry) → Logged (Queues × List Delivery)
  | [] => return (queues, [])
  | (user, batch) :: rest => do
    let (queues, delivered) := settle queues user batch (← verdict sources now user batch)
    let (queues, later) ← settleAll sources now queues rest
    return (queues, delivered ++ later)

/-- Flushes all queues, with nothing else going on. -/
def flush (sources : Sources) (now : Instant) (queues : Queues) : Logged (Queues × List Delivery) :=
  settleAll sources now queues queues.table.entries

/-- Flushes the queues at each of the given times and hands every digest over; `accepts` says whose
digests are accepted. The deliveries are those that were. -/
def flushEach (sources : Sources) (accepts : Id → Bool) (queues : Queues) :
    List Instant → Logged (Queues × List Delivery)
  | [] => return (queues, [])
  | now :: rest => do
    let (queues, due) ← flush sources now queues
    due.forM fun delivery =>
      if accepts delivery.user then pure () else Logged.warn .digestNotDelivered
    let (queues, later) ← flushEach sources accepts queues rest
    return (queues, due.filter (fun delivery => accepts delivery.user) ++ later)

/-- The queues and the gate that flushes pass, so that there is never more than one of them at work.
-/
structure Job where
  queues : Queues := {}
  gate : Gate := {}

/-- How far a flush has come. -/
inductive Progress where
  /-- The gate is still to be asked for. -/
  | outside
  /-- The flush waits for the gate. -/
  | waiting
  /-- The flush decides on the first of the users left, the other ones being still to come. -/
  | deciding (left : List (Id × List Entry)) (delivered : List Delivery)

/-- What happens to a job: entries arrive, or its queues are flushed. -/
inductive Errand where
  | add (entries : List (Id × Entry))
  | flush (ticket : Ticket) (now : Instant) (progress : Progress)

/-- What comes of an errand: the lengths of the queues after each entry, or the deliveries. -/
inductive Outcome where
  | added (lengths : List Nat)
  | flushed (delivered : List Delivery)

/-- Adds entries one by one; the numbers are the lengths of the queues after each of them. -/
def addEach (queues : Queues) : List (Id × Entry) → Queues × List Nat
  | [] => (queues, [])
  | (user, entry) :: rest =>
    let queues := queues.add user entry
    let (last, lengths) := addEach queues rest
    (last, (queues.pending user).length :: lengths)

namespace Job

/-- The stage of a flush that has users left to decide on: it takes one delay for every question. A
flush that is through leaves the gate. -/
def decideNext (sources : Sources) (delay : Nat) (state : Logged Job) (moment : Nat) (ticket : Ticket)
    (now : Instant) (left : List (Id × List Entry)) (delivered : List Delivery) :
    Logged Job × Timeline.Stage Errand Outcome :=
  match left with
  | [] =>
    ({ state with value := { state.value with gate := state.value.gate.leave ticket } },
      .done (.flushed delivered))
  | (user, batch) :: _ =>
    let cost := (verdict sources now user batch).questions.length * delay
    (state, .asleep (moment + cost) (.flush ticket now (.deciding left delivered)))

/-- How errands go on when every question takes the same delay. -/
def advance (sources : Sources) (delay : Nat) : Timeline.Advance (Logged Job) Errand Outcome
  | state, _, .add entries =>
    let (queues, lengths) := addEach state.value.queues entries
    some ({ state with value := { state.value with queues := queues } }, .done (.added lengths))
  | state, moment, .flush ticket now .outside =>
    let job := { state.value with gate := state.value.gate.ask ticket }
    let state := { state with value := job }
    if job.gate.isHeldBy ticket then
      some (decideNext sources delay state moment ticket now job.queues.table.entries [])
    else some (state, .stuck (.flush ticket now .waiting))
  | state, moment, .flush ticket now .waiting =>
    let job := { state.value with gate := state.value.gate.enter ticket }
    if job.gate.isHeldBy ticket then
      some (decideNext sources delay { state with value := job } moment ticket now
        job.queues.table.entries [])
    else none
  | _, _, .flush _ _ (.deciding [] _) => none
  | state, moment, .flush ticket now (.deciding ((user, batch) :: left) delivered) =>
    let settled := state.andThen fun job => do
      let (queues, more) := settle job.queues user batch (← verdict sources now user batch)
      return ({ job with queues := queues }, more)
    some (decideNext sources delay { settled with value := settled.value.1 } moment ticket now left
      (delivered ++ settled.value.2))

/-- An upper bound for the number of steps that errands take. -/
def stepBound (queues : Queues) (errands : List (Nat × Errand)) : Nat :=
  let added := errands.foldl (fun count errand =>
    match errand.2 with
    | .add entries => count + entries.length
    | .flush .. => count) 0
  4 * (errands.length + 1) * (queues.userCount + added + 3)

/-- Runs errands together, each of which begins at its moment. -/
def runTogether (sources : Sources) (delay : Nat) (queues : Queues) (errands : List (Nat × Errand)) :
    Logged Queues × List (Option Outcome) :=
  let stages := errands.map fun (moment, errand) => Timeline.Stage.asleep moment errand
  let (state, stages) := Timeline.run (advance sources delay) (stepBound queues errands) 0
    (pure { queues := queues }) stages
  ({ state with value := state.value.queues }, stages.map Timeline.Stage.answer?)

end Job

end ChatNotify.Digest
