import ChatNotify.Digest.Flush

namespace ChatNotify

namespace Gate

variable {gate : Gate} {ticket other : Ticket}

theorem isHeldBy_iff : gate.isHeldBy ticket = true ↔ gate.owner = some ticket ∧ gate.entered = true := by
  simp [isHeldBy]

/-- There is never more than one holder. -/
theorem eq_of_isHeldBy (hheld : gate.isHeldBy ticket = true) (hother : gate.isHeldBy other = true) :
    ticket = other := by
  have howner := (isHeldBy_iff.1 hheld).1
  rw [(isHeldBy_iff.1 hother).1] at howner
  exact (Option.some.inj howner).symm

theorem isHeldBy_ask (hheld : gate.isHeldBy ticket = true) (other : Ticket) :
    (gate.ask other).isHeldBy ticket = true := by
  obtain ⟨howner, hentered⟩ := isHeldBy_iff.1 hheld
  rw [isHeldBy_iff, ask, howner]
  exact ⟨rfl, hentered⟩

theorem isHeldBy_enter (hheld : gate.isHeldBy ticket = true) (other : Ticket) :
    (gate.enter other).isHeldBy ticket = true := by
  obtain ⟨howner, hentered⟩ := isHeldBy_iff.1 hheld
  rw [isHeldBy_iff, enter]
  split
  · exact ⟨howner, rfl⟩
  · exact ⟨howner, hentered⟩

theorem isHeldBy_leave (hheld : gate.isHeldBy ticket = true) (hne : other ≠ ticket) :
    (gate.leave other).isHeldBy ticket = true := by
  obtain ⟨howner, hentered⟩ := isHeldBy_iff.1 hheld
  have hnot : gate.owner ≠ some other := by
    intro howned
    rw [howner] at howned
    exact hne (Option.some.inj howned).symm
  rw [isHeldBy_iff, leave, if_neg hnot]
  exact ⟨howner, hentered⟩

end Gate

namespace Digest

/-- A job with the flushes that have not ended. -/
structure Rounds where
  job : Job := {}
  flushes : Table Ticket (Instant × Progress) := ∅

/-- What may happen at one moment. -/
inductive Move where
  | add (user : Id) (entry : Entry)
  | start (now : Instant)
  /-- The flush goes on, with the answers that its collaborators give this time. -/
  | resume (ticket : Ticket) (sources : Sources)
  | abandon (ticket : Ticket)

/-- What is seen of it. -/
inductive Happening where
  | added (user : Id) (entry : Entry)
  | started (now : Instant)
  /-- The flush has passed the gate and looked at what is pending. -/
  | looked (ticket : Ticket)
  /-- The flush has decided on a user: `taken` went out of the user's queue, `handed` was delivered. -/
  | settled (ticket : Ticket) (user : Id) (taken : List Entry) (handed : List Delivery)
  | abandoned (ticket : Ticket)
  /-- The flush was not there, or it waits for the gate. -/
  | nothing

/-- The entries at the front of a user's queue that are no longer there. -/
def takenBetween (before after : Queues) (user : Id) : List Entry :=
  (before.pending user).take ((before.pending user).length - (after.pending user).length)

/-- What a flush has delivered when it comes to the stage. -/
def deliveredAt : Timeline.Stage Errand Outcome → List Delivery
  | .done (.flushed delivered) => delivered
  | .asleep _ (.flush _ _ (.deciding _ delivered)) => delivered
  | _ => []

namespace Rounds

/-- The flushes after one of them has come to the stage. -/
def proceed (flushes : Table Ticket (Instant × Progress)) (ticket : Ticket) :
    Timeline.Stage Errand Outcome → Table Ticket (Instant × Progress)
  | .asleep _ (.flush _ now progress) => flushes.insert ticket (now, progress)
  | .stuck (.flush _ now progress) => flushes.insert ticket (now, progress)
  | _ => flushes.erase ticket

/-- What is seen of a flush that goes on. -/
def observe (before after : Queues) (ticket : Ticket) : Progress → Timeline.Stage Errand Outcome → Happening
  | .deciding ((user, _) :: _) delivered, stage =>
    .settled ticket user (takenBetween before after user) ((deliveredAt stage).drop delivered.length)
  | _, .stuck _ => .nothing
  | _, _ => .looked ticket

/-- Lets a flush go on. -/
def goOn (rounds : Rounds) (ticket : Ticket) (now : Instant) (progress : Progress) (sources : Sources) :
    Rounds × Happening :=
  match Job.advance sources 0 { value := rounds.job } 0 (.flush ticket now progress) with
  | none => (rounds, .nothing)
  | some (state, stage) =>
    ({ job := state.value, flushes := proceed rounds.flushes ticket stage },
      observe rounds.job.queues state.value.queues ticket progress stage)

/-- Lets one thing happen: an entry arrives, a flush starts, takes its next step or is given up where it stands. -/
def move (rounds : Rounds) (moment : Nat) : Move → Rounds × Happening
  | .add user entry =>
    ({ rounds with job := { rounds.job with queues := rounds.job.queues.add user entry } },
      .added user entry)
  | .start now => ({ rounds with flushes := rounds.flushes.insert moment (now, .outside) }, .started now)
  | .resume ticket sources =>
    match rounds.flushes.get? ticket with
    | some (now, progress) => rounds.goOn ticket now progress sources
    | none => (rounds, .nothing)
  | .abandon ticket =>
    match rounds.flushes.get? ticket with
    | some _ =>
      ({ job := { rounds.job with gate := rounds.job.gate.leave ticket }
         flushes := rounds.flushes.erase ticket }, .abandoned ticket)
    | none => (rounds, .nothing)

/-- The rounds when a flush that holds the gate has the users left to decide on. -/
def working (rounds : Rounds) (job : Job) (ticket : Ticket) (now : Instant) (left : List (Id × List Entry))
    (delivered : List Delivery) : Rounds :=
  match left with
  | [] => { job := { job with gate := job.gate.leave ticket }, flushes := rounds.flushes.erase ticket }
  | _ :: _ => { job := job, flushes := rounds.flushes.insert ticket (now, .deciding left delivered) }

end Rounds

/-- The logs of all that may happen to a job without entries, with what it comes to. The order in which
the users' queues are kept may change at any time. -/
inductive Runs : List Happening → Rounds → Prop
  | start : Runs [] {}
  | step {log : List Happening} {rounds : Rounds} (hruns : Runs log rounds) (move : Move) :
      Runs (log ++ [(rounds.move log.length move).2]) (rounds.move log.length move).1
  | shuffle {log : List Happening} {rounds : Rounds} (hruns : Runs log rounds) (queues : Queues)
      (hpending : ∀ user, queues.pending user = rounds.job.queues.pending user) :
      Runs log { rounds with job := { rounds.job with queues := queues } }

theorem takenBetween_of_append {before after : Queues} {user : Id} {batch since : List Entry}
    (hbefore : before.pending user = batch ++ since) (hafter : after.pending user = since) :
    takenBetween before after user = batch := by
  rw [takenBetween, hbefore, hafter, List.length_append, Nat.add_sub_cancel, List.take_left]

theorem pending_settle_of_ne {user other : Id} (hne : user ≠ other) (queues : Queues) (batch : List Entry)
    (verdict : Verdict) : (settle queues user batch verdict).1.pending other = queues.pending other := by
  cases verdict with
  | keep => rfl
  | drop => exact (Queues.pending_removeFirst ..).trans (if_neg hne)
  | deliver => exact (Queues.pending_removeFirst ..).trans (if_neg hne)

/-- Of a queue that begins with the batch, settling takes the batch away or nothing at all. -/
theorem settle_cases {queues : Queues} {user : Id} {batch since : List Entry}
    (hpending : queues.pending user = batch ++ since) (verdict : Verdict) :
    let settled := settle queues user batch verdict
    let taken := takenBetween queues settled.1 user
    taken = [] ∧ settled.2 = [] ∧ settled.1.pending user = batch ++ since ∨
      taken = batch ∧ (settled.2 = [] ∨ settled.2 = [{ user := user, batch := batch }]) ∧
        settled.1.pending user = since := by
  have hremoved : (queues.removeFirst user batch.length).pending user = since := by
    rw [Queues.pending_removeFirst, if_pos rfl, hpending, List.drop_left]
  cases verdict with
  | keep => exact .inl ⟨takenBetween_of_append rfl rfl, rfl, hpending⟩
  | drop => exact .inr ⟨takenBetween_of_append hpending hremoved, .inl rfl, hremoved⟩
  | deliver => exact .inr ⟨takenBetween_of_append hpending hremoved, .inr rfl, hremoved⟩

theorem pending_eq_append_settle {queues : Queues} {user : Id} {batch since : List Entry}
    (hpending : queues.pending user = batch ++ since) (verdict : Verdict) :
    queues.pending user = takenBetween queues (settle queues user batch verdict).1 user ++
      (settle queues user batch verdict).1.pending user := by
  rcases settle_cases hpending verdict with ⟨htaken, -, hafter⟩ | ⟨htaken, -, hafter⟩
  · rw [htaken, hafter, List.nil_append, hpending]
  · rw [htaken, hafter, hpending]

namespace Rounds

variable (rounds : Rounds) (ticket : Ticket) (now : Instant) (sources : Sources)

@[simp]
theorem queues_working (job : Job) (left : List (Id × List Entry)) (delivered : List Delivery) :
    (rounds.working job ticket now left delivered).job.queues = job.queues := by
  cases left <;> rfl

variable {ticket now}

theorem of_get?_working {job : Job} {left : List (Id × List Entry)} {delivered : List Delivery} {other : Ticket}
    {flush : Instant × Progress}
    (hflush : (rounds.working job ticket now left delivered).flushes.get? other = some flush) :
    other ≠ ticket ∧ rounds.flushes.get? other = some flush ∨
      other = ticket ∧ flush = (now, .deciding left delivered) ∧
        (rounds.working job ticket now left delivered).job = job := by
  cases left with
  | nil =>
    rw [working, Table.get?_erase] at hflush
    split at hflush
    · cases hflush
    · next hne => exact .inl ⟨hne, hflush⟩
  | cons first rest =>
    rw [working, Table.get?_insert] at hflush
    split at hflush
    · next heq => exact .inr ⟨heq.symm, (Option.some.inj hflush).symm, rfl⟩
    · next hne => exact .inl ⟨fun heq => hne heq.symm, hflush⟩

variable (ticket now)

/-- A flush that the gate lets in looks at all queues; else it waits. -/
theorem goOn_outside :
    rounds.goOn ticket now .outside sources =
      let job := { rounds.job with gate := rounds.job.gate.ask ticket }
      if job.gate.isHeldBy ticket then
        (rounds.working job ticket now job.queues.table.entries [], .looked ticket)
      else ({ job := job, flushes := rounds.flushes.insert ticket (now, .waiting) }, .nothing) := by
  cases hheld : (rounds.job.gate.ask ticket).isHeldBy ticket with
  | false => simp only [goOn, Job.advance, hheld]; rfl
  | true =>
    simp only [goOn, Job.advance, hheld, if_true]
    cases rounds.job.queues.table.entries <;> rfl

theorem goOn_waiting :
    rounds.goOn ticket now .waiting sources =
      let job := { rounds.job with gate := rounds.job.gate.enter ticket }
      if job.gate.isHeldBy ticket then
        (rounds.working job ticket now job.queues.table.entries [], .looked ticket)
      else (rounds, .nothing) := by
  cases hheld : (rounds.job.gate.enter ticket).isHeldBy ticket with
  | false => simp only [goOn, Job.advance, hheld]; rfl
  | true =>
    simp only [goOn, Job.advance, hheld, if_true]
    cases rounds.job.queues.table.entries <;> rfl

theorem goOn_deciding (user : Id) (batch : List Entry) (left : List (Id × List Entry))
    (delivered : List Delivery) :
    rounds.goOn ticket now (.deciding ((user, batch) :: left) delivered) sources =
      let settled := settle rounds.job.queues user batch (verdict sources now user batch).value
      let job := { rounds.job with queues := settled.1 }
      (rounds.working job ticket now left (delivered ++ settled.2),
        .settled ticket user (takenBetween rounds.job.queues settled.1 user) settled.2) := by
  unfold goOn Job.advance
  cases left with
  | nil =>
    refine Prod.ext rfl ?_
    exact congrArg (Happening.settled ticket user _) (List.drop_left ..)
  | cons next left =>
    refine Prod.ext rfl ?_
    exact congrArg (Happening.settled ticket user _) (List.drop_left ..)

theorem goOn_through (delivered : List Delivery) :
    rounds.goOn ticket now (.deciding [] delivered) sources = (rounds, .nothing) := rfl

end Rounds

end Digest

end ChatNotify
