import ChatNotify.Proofs.Cache.Line
import Mathlib.Data.List.Nodup
import Mathlib.Data.List.Perm.Subperm

namespace ChatNotify.Cache

/-- How far a read has come. -/
inductive Crowd.Stage (α ε : Type) where
  | waits
  | fetches (epoch : Nat) (gated : Bool)
  | returned (outcome : Except ε α)
  deriving DecidableEq

/-- A shelf, and the reads of one of its keys that have been started. -/
structure Crowd (κ α ε : Type) where
  shelf : Shelf κ α
  reads : Table Ticket (Crowd.Stage α ε) := ∅
  /-- The reads whose fetches have come to an outcome, in that order. -/
  ended : List Ticket := []
  /-- How often a read has gone on since it was started. -/
  steps : Nat := 0
  /-- How many lookups of other keys were counted as hits. -/
  otherHits : Nat := 0
  /-- How many lookups of other keys were counted as misses. -/
  otherMisses : Nat := 0

namespace Crowd

variable {κ α ε : Type} [DecidableEq κ]

/-- How far a step of a read has led. -/
def Stage.ofReading : Reading α → Stage α ε
  | .found value => .returned (.ok value)
  | .waits => .waits
  | .fetches epoch gated => .fetches epoch gated

/-- A read is started. -/
def start (crowd : Crowd κ α ε) (key : κ) (ticket : Ticket) (now : Instant) : Crowd κ α ε :=
  let read := crowd.shelf.beginRead ticket key true now
  { crowd with shelf := read.1, reads := crowd.reads.insert ticket (.ofReading read.2) }

/-- A read that waits looks whether it is its turn, and goes on if it is. -/
def resume (crowd : Crowd κ α ε) (key : κ) (ticket : Ticket) (now : Instant) : Crowd κ α ε :=
  let read := crowd.shelf.resumeRead ticket key now
  match read.2 with
  | .waits => { crowd with shelf := read.1 }
  | reading =>
    { crowd with shelf := read.1, reads := crowd.reads.insert ticket (.ofReading reading), steps := crowd.steps + 1 }

/-- The fetch of a read comes to its outcome, which the read returns. -/
def finish (crowd : Crowd κ α ε) (key : κ) (ticket : Ticket) (epoch : Nat) (gated : Bool) (outcome : Except ε α)
    (now : Instant) : Crowd κ α ε :=
  { crowd with
    shelf := crowd.shelf.finishRead ticket key epoch gated outcome now
    reads := crowd.reads.insert ticket (.returned outcome)
    ended := crowd.ended ++ [ticket]
    steps := crowd.steps + 1 }

omit [DecidableEq κ] in
/-- Something has happened to another key, which may have been looked up. -/
def pass (crowd : Crowd κ α ε) (after : Shelf κ α) : Crowd κ α ε :=
  { crowd with
    shelf := after
    otherHits := crowd.otherHits + (after.tally.hits - crowd.shelf.tally.hits)
    otherMisses := crowd.otherMisses + (after.tally.misses - crowd.shelf.tally.misses) }

omit [DecidableEq κ] in
/-- Some fetch has brought the value. -/
def HasBrought (outcomes : Nat → Except ε α) (crowd : Crowd κ α ε) : Prop :=
  ∃ i < crowd.ended.length, ∃ value, outcomes i = .ok value

/-- The crowds that the reads of a key may form if the fetches come to the outcomes, in the order in which they
end. All reads are started before that, and not before the given instant. Nothing is dropped meanwhile, and
the value, once it has been brought, is neither evicted nor too old when a read looks for it. -/
inductive Runs (key : κ) (outcomes : Nat → Except ε α) (since : Instant) (shelf : Shelf κ α) : Crowd κ α ε → Prop
  | begin : Runs key outcomes since shelf { shelf := shelf }
  | start {crowd : Crowd κ α ε} (hruns : Runs key outcomes since shelf crowd) {ticket : Ticket}
      (hnew : crowd.reads.get? ticket = none) (hearly : crowd.ended = []) {now : Instant} (hnow : since ≤ now) :
      Runs key outcomes since shelf (crowd.start key ticket now)
  | resume {crowd : Crowd κ α ε} (hruns : Runs key outcomes since shelf crowd) {ticket : Ticket}
      (hwaits : crowd.reads.get? ticket = some .waits) {now : Instant} (hnow : since ≤ now)
      (hfresh : crowd.HasBrought outcomes →
        ∀ slot, crowd.shelf.slot? key = some slot → crowd.shelf.isFresh now slot = true) :
      Runs key outcomes since shelf (crowd.resume key ticket now)
  | finish {crowd : Crowd κ α ε} (hruns : Runs key outcomes since shelf crowd) {ticket : Ticket} {epoch : Nat}
      {gated : Bool} (hfetches : crowd.reads.get? ticket = some (.fetches epoch gated)) (now : Instant) :
      Runs key outcomes since shelf (crowd.finish key ticket epoch gated (outcomes crowd.ended.length) now)
  | elsewhere {crowd : Crowd κ α ε} (hruns : Runs key outcomes since shelf crowd) {after : Shelf κ α}
      (helse : crowd.shelf.Elsewhere key after)
      (hkept : crowd.HasBrought outcomes → after.slot? key = crowd.shelf.slot? key) :
      Runs key outcomes since shelf (crowd.pass after)

/-- What a read has returned: the outcome of its own fetch, or a value that another has brought. -/
inductive IsOutcome (outcomes : Nat → Except ε α) (ended : List Ticket) (ticket : Ticket) : Except ε α → Prop
  | own {i : Nat} (hended : ended[i]? = some ticket) : IsOutcome outcomes ended ticket (outcomes i)
  | shared {i : Nat} {value : α} (hnot : ticket ∉ ended) (hlt : i < ended.length) (hok : outcomes i = .ok value) :
      IsOutcome outcomes ended ticket (.ok value)

/-- What was an outcome is one when another fetch has ended, if all before it have failed. -/
theorem IsOutcome.concat {outcomes : Nat → Except ε α} {ended : List Ticket} {ticket : Ticket} {outcome : Except ε α}
    (houtcome : IsOutcome outcomes ended ticket outcome)
    (hfail : ∀ i < ended.length, ∃ error, outcomes i = .error error) (last : Ticket) :
    IsOutcome outcomes (ended ++ [last]) ticket outcome := by
  cases houtcome with
  | own hended =>
    obtain ⟨hlt, -⟩ := List.getElem?_eq_some_iff.1 hended
    exact .own ((List.getElem?_append_left hlt).trans hended)
  | shared _ hlt hok =>
    obtain ⟨error, herror⟩ := hfail _ hlt
    rw [herror] at hok
    cases hok

/-- The reads that have not returned stand in line. The first of them fetches if it has entered the gate, and the
others wait. -/
structure Stands (outcomes : Nat → Except ε α) (epoch : Nat) (entered : Bool) (line : List Ticket)
    (reads : Table Ticket (Stage α ε)) (ended : List Ticket) : Prop where
  nodup_line : line.Nodup
  nodup_ended : ended.Nodup
  not_mem_line : ∀ ticket ∈ ended, ticket ∉ line
  started : ∀ ticket ∈ ended, ∃ stage, reads.get? ticket = some stage
  pending : ∀ ticket ∈ line, reads.get? ticket =
    some (if entered = true ∧ line.head? = some ticket then .fetches epoch true else .waits)
  gone : ∀ ticket stage, reads.get? ticket = some stage → ticket ∉ line →
    ∃ outcome, stage = .returned outcome ∧ IsOutcome outcomes ended ticket outcome

namespace Stands

variable {outcomes : Nat → Except ε α} {epoch : Nat} {entered : Bool} {line ended : List Ticket}
  {reads : Table Ticket (Stage α ε)} {ticket : Ticket}

/-- A read that is waiting or fetches stands in line. -/
theorem mem_line (hstands : Stands outcomes epoch entered line reads ended) {stage : Stage α ε}
    (hstage : reads.get? ticket = some stage) (hpending : ∀ outcome, stage ≠ .returned outcome) : ticket ∈ line := by
  refine Classical.byContradiction fun hnot => ?_
  obtain ⟨outcome, hreturned, -⟩ := hstands.gone ticket stage hstage hnot
  exact hpending outcome hreturned

/-- Who has not been started does not stand in line. -/
theorem not_mem_line_of_new (hstands : Stands outcomes epoch entered line reads ended)
    (hnew : reads.get? ticket = none) : ticket ∉ line := by
  intro hmem
  rw [hstands.pending ticket hmem] at hnew
  cases hnew

theorem started_insert (hstands : Stands outcomes epoch entered line reads ended) {later : List Ticket}
    (hlater : ∀ other ∈ later, other ∈ ended ∨ other = ticket) (stage : Stage α ε) :
    ∀ other ∈ later, ∃ found, (reads.insert ticket stage).get? other = some found := by
  intro other hmem
  rw [Table.get?_insert]
  split
  · exact ⟨_, rfl⟩
  · next hne => exact hstands.started other ((hlater other hmem).resolve_right (Ne.symm hne))

/-- A read that fetches is the first in line, and has entered. -/
theorem of_fetches (hstands : Stands outcomes epoch entered line reads ended) {began : Nat} {gated : Bool}
    (hfetches : reads.get? ticket = some (.fetches began gated)) :
    entered = true ∧ line.head? = some ticket ∧ began = epoch ∧ gated = true := by
  have hpending := hstands.pending ticket (hstands.mem_line hfetches nofun)
  rw [hfetches] at hpending
  split at hpending
  · next hturn =>
    cases hpending
    exact ⟨hturn.1, hturn.2, rfl, rfl⟩
  · cases hpending

theorem size_eq_zero (hstands : Stands outcomes epoch entered [] reads []) : reads.size = 0 := by
  rw [Table.size, List.length_eq_zero_iff, List.eq_nil_iff_forall_not_mem]
  rintro ⟨ticket, stage⟩ hentry
  obtain ⟨outcome, -, houtcome⟩ := hstands.gone ticket stage (Table.get?_eq_some_iff.2 hentry) List.not_mem_nil
  cases houtcome with
  | own hended => cases hended
  | shared _ hlt => exact absurd hlt (Nat.not_lt_zero _)

/-- A new read joins the line. -/
theorem join_preserves_stands (hstands : Stands outcomes epoch entered line reads ended)
    (hnew : reads.get? ticket = none) :
    Stands outcomes epoch (entered || line.isEmpty) (line ++ [ticket])
      (reads.insert ticket (if line = [] then .fetches epoch true else .waits)) ended := by
  have hnotin := hstands.not_mem_line_of_new hnew
  have hnotended : ticket ∉ ended := by
    intro hmem
    obtain ⟨stage, hstage⟩ := hstands.started ticket hmem
    rw [hnew] at hstage
    cases hstage
  refine ⟨?_, hstands.nodup_ended, ?_, hstands.started_insert (fun _ => .inl) _, ?_, ?_⟩
  · rw [← List.concat_eq_append, List.nodup_concat]
    exact ⟨hnotin, hstands.nodup_line⟩
  · intro other hended hmem
    rcases List.mem_append.1 hmem with hline | hsame
    · exact hstands.not_mem_line other hended hline
    · rw [List.mem_singleton.1 hsame] at hended
      exact hnotended hended
  · intro other hmem
    rw [Table.get?_insert]
    -- The new read is the first in line just if there was nobody; else the first remains.
    cases line with
    | nil =>
      rw [List.mem_singleton.1 hmem, if_pos rfl, if_pos rfl, if_pos (by simp)]
    | cons owner rest =>
      have hempty : (entered || (owner :: rest).isEmpty) = entered := by simp
      have hhead : (owner :: rest ++ [ticket]).head? = (owner :: rest).head? := rfl
      rw [hempty, hhead]
      rcases List.mem_append.1 hmem with hline | hsame
      · have hne : ticket ≠ other := fun heq => hnotin (heq ▸ hline)
        rw [if_neg hne]
        exact hstands.pending other hline
      · have hne : owner ≠ ticket := fun heq => hnotin (heq ▸ List.mem_cons_self)
        rw [List.mem_singleton.1 hsame, if_pos rfl, if_neg (by simp), if_neg (by simp [hne])]
  · intro other stage hstage hnot
    rw [List.mem_append, not_or, List.mem_singleton] at hnot
    rw [Table.get?_insert, if_neg (Ne.symm hnot.2)] at hstage
    exact hstands.gone other stage hstage hnot.1

/-- The first in line enters and fetches. -/
theorem enter_preserves_stands (hstands : Stands outcomes epoch false (ticket :: line) reads ended) :
    Stands outcomes epoch true (ticket :: line) (reads.insert ticket (.fetches epoch true)) ended := by
  refine ⟨hstands.nodup_line, hstands.nodup_ended, hstands.not_mem_line,
    hstands.started_insert (fun _ => .inl) _, ?_, ?_⟩
  · intro other hmem
    rw [Table.get?_insert]
    by_cases hne : ticket = other
    · simp [hne]
    · rw [if_neg hne, hstands.pending other hmem]
      simp [hne]
  · intro other stage hstage hnot
    have hne : ticket ≠ other := fun heq => hnot (heq ▸ List.mem_cons_self)
    rw [Table.get?_insert, if_neg hne] at hstage
    exact hstands.gone other stage hstage hnot

/-- The first in line returns and leaves. -/
theorem leave_preserves_stands (hstands : Stands outcomes epoch entered (ticket :: line) reads ended)
    {later : List Ticket} {outcome : Except ε α} (hnodup : later.Nodup)
    (hlater : ∀ other ∈ later, other ∈ ended ∨ other = ticket) (hown : IsOutcome outcomes later ticket outcome)
    (hothers : ∀ other outcome, other ≠ ticket → IsOutcome outcomes ended other outcome →
      IsOutcome outcomes later other outcome) :
    Stands outcomes epoch false line (reads.insert ticket (.returned outcome)) later := by
  obtain ⟨hticket, hline⟩ := List.nodup_cons.1 hstands.nodup_line
  refine ⟨hline, hnodup, ?_, hstands.started_insert hlater _, ?_, ?_⟩
  · intro other hmem
    rcases hlater other hmem with hended | rfl
    · exact fun hin => hstands.not_mem_line other hended (List.mem_cons_of_mem _ hin)
    · exact hticket
  · intro other hmem
    have hne : ticket ≠ other := fun heq => hticket (heq ▸ hmem)
    rw [Table.get?_insert, if_neg hne, hstands.pending other (List.mem_cons_of_mem _ hmem)]
    simp [hne]
  · intro other stage hstage hnot
    rw [Table.get?_insert] at hstage
    split at hstage
    · next heq =>
      cases hstage
      exact ⟨outcome, rfl, heq ▸ hown⟩
    · next hne =>
      have hnotin : other ∉ ticket :: line := by
        rw [List.mem_cons, not_or]
        exact ⟨Ne.symm hne, hnot⟩
      obtain ⟨found, hreturned, hfound⟩ := hstands.gone other stage hstage hnotin
      exact ⟨found, hreturned, hothers other found (Ne.symm hne) hfound⟩

end Stands

/-- Either all fetches have failed so far and the value is absent, or the last of them has brought the value and
no read has entered the gate since. -/
inductive Course (key : κ) (outcomes : Nat → Except ε α) (since : Instant) (shelf : Shelf κ α) (count : Nat) :
    Bool → Prop
  | failing {entered : Bool} (hfail : ∀ i < count, ∃ error, outcomes i = .error error)
      (habsent : shelf.IsAbsent key since) : Course key outcomes since shelf count entered
  | brought {last : Nat} {slot : Slot κ α} (hlast : count = last + 1)
      (hfail : ∀ i < last, ∃ error, outcomes i = .error error) (hok : outcomes last = .ok slot.value)
      (hslot : shelf.slot? key = some slot) : Course key outcomes since shelf count false

theorem Course.congr {key : κ} {outcomes : Nat → Except ε α} {since : Instant} {shelf after : Shelf κ α} {count : Nat}
    {entered : Bool} (hcourse : Course key outcomes since shelf count entered) (httl : after.ttl = shelf.ttl)
    (hslot : after.slot? key = shelf.slot? key) : Course key outcomes since after count entered := by
  cases hcourse with
  | failing hfail habsent => exact .failing hfail ((Shelf.isAbsent_congr httl hslot).2 habsent)
  | brought hlast hfail hok hbrought => exact .brought hlast hfail hok (hslot.trans hbrought)

/-- What holds at every moment: how the reads stand in line, that they do so at the gate of the key, what has
become of the fetches, and what has been counted. -/
structure Sound (key : κ) (outcomes : Nat → Except ε α) (since : Instant) (shelf : Shelf κ α) (entered : Bool)
    (line : List Ticket) (crowd : Crowd κ α ε) : Prop where
  stands : Stands outcomes crowd.shelf.epoch entered line crowd.reads crowd.ended
  gate : crowd.shelf.gates.gate key = .ofLine entered line
  deserted : line = [] → entered = false ∧ (crowd.reads.size = 0 ∨ crowd.shelf.gates.table.get? key = none)
  course : Course key outcomes since crowd.shelf crowd.ended.length entered
  misses : crowd.shelf.tally.misses = shelf.tally.misses + crowd.reads.size + crowd.otherMisses
  hits : crowd.shelf.tally.hits = shelf.tally.hits + crowd.otherHits
  /-- A read goes on when it enters, when its fetch ends, or when it finds the value. The first read to be started
  enters at once. -/
  steps : crowd.steps + line.length + (if crowd.reads.size = 0 then 0 else 1) =
    crowd.reads.size + crowd.ended.length + (if entered then 1 else 0)

namespace Sound

variable {key : κ} {outcomes : Nat → Except ε α} {since : Instant} {shelf : Shelf κ α} {entered : Bool}
  {line : List Ticket} {crowd : Crowd κ α ε} {ticket : Ticket} {now : Instant}

theorem of_isAbsent (hfree : shelf.gates.gate key = {}) (habsent : shelf.IsAbsent key since) :
    Sound key outcomes since shelf false [] { shelf := shelf } where
  stands := by
    refine ⟨.nil, .nil, ?_, ?_, ?_, ?_⟩
    · exact fun _ hmem => absurd hmem List.not_mem_nil
    · exact fun _ hmem => absurd hmem List.not_mem_nil
    · exact fun _ hmem => absurd hmem List.not_mem_nil
    · exact fun _ _ hstage => nomatch hstage
  gate := hfree
  deserted _ := ⟨rfl, .inl rfl⟩
  course := .failing (fun _ hlt => absurd hlt (Nat.not_lt_zero _)) habsent
  misses := rfl
  hits := rfl
  steps := rfl

/-- A read that is started misses the value and joins the line. -/
theorem start_preserves_sound (hsound : Sound key outcomes since shelf entered line crowd)
    (hnew : crowd.reads.get? ticket = none) (hearly : crowd.ended = []) (hnow : since ≤ now) :
    Sound key outcomes since shelf (entered || line.isEmpty) (line ++ [ticket]) (crowd.start key ticket now) := by
  have hnotin := hsound.stands.not_mem_line_of_new hnew
  -- No fetch has ended, so none has brought the value.
  have habsent : crowd.shelf.IsAbsent key since := by
    cases hsound.course with
    | failing _ habsent => exact habsent
    | brought hlast =>
      rw [hearly] at hlast
      cases hlast
  have hstart : crowd.start key ticket now =
      { crowd with
        shelf := { crowd.shelf.missed key with gates := crowd.shelf.gates.ask key ticket }
        reads := crowd.reads.insert ticket (if line = [] then .fetches crowd.shelf.epoch true else .waits) } := by
    simp only [Crowd.start, Shelf.beginRead_of_isAbsent (habsent.later hnow) hsound.gate hnotin]
    split <;> rfl
  have hsize : (crowd.reads.insert ticket (if line = [] then .fetches crowd.shelf.epoch true else .waits)).size =
      crowd.reads.size + 1 := by
    rw [Table.size_insert, if_pos hnew]
  rw [hstart]
  refine ⟨hsound.stands.join_preserves_stands hnew, ?_, ?_, ?_, ?_, hsound.hits, ?_⟩
  · exact Gates.gate_ask.trans ((congrArg (Gate.ask · ticket) hsound.gate).trans Gate.ask_ofLine)
  · intro hnil
    exact absurd hnil (by simp)
  · refine .failing ?_ (Shelf.isAbsent_of_slot? (crowd.shelf.slot?_missed key))
    rw [hearly]
    exact fun _ hlt => absurd hlt (Nat.not_lt_zero _)
  · have hmisses := hsound.misses
    simp only [hsize, Shelf.missed]
    omega
  · have hsteps := hsound.steps
    simp only [hsize, List.length_append, List.length_singleton, if_neg (Nat.succ_ne_zero _)]
    cases line with
    | nil =>
      have hentered := (hsound.deserted rfl).1
      have hnone := (hearly ▸ hsound.stands).size_eq_zero
      simp [hentered, hnone] at hsteps ⊢
      omega
    | cons owner rest =>
      have hsome := Table.size_ne_zero_of_get? (hsound.stands.pending owner List.mem_cons_self)
      rw [if_neg hsome] at hsteps
      simp only [List.isEmpty_cons, Bool.or_false]
      omega

/-- Looking whether it is one's turn changes nothing if it is not. -/
theorem resume_preserves_sound_of_not_turn (hsound : Sound key outcomes since shelf entered line crowd)
    (hturn : line.head? ≠ some ticket) :
    Sound key outcomes since shelf entered line (crowd.resume key ticket now) := by
  have hresume : crowd.resume key ticket now =
      { crowd with shelf := { crowd.shelf with gates := crowd.shelf.gates.enter key ticket } } := by
    simp only [Crowd.resume, Shelf.resumeRead_of_not_turn hsound.gate hturn]
  rw [hresume]
  refine ⟨hsound.stands, ?_, ?_, hsound.course.congr rfl rfl, hsound.misses, hsound.hits, hsound.steps⟩
  · refine Gates.gate_enter.trans ((congrArg (Gate.enter · ticket) hsound.gate).trans (Gate.enter_ofLine.trans ?_))
    rw [decide_eq_false hturn, Bool.or_false]
  · intro hnil
    obtain ⟨hentered, hleft⟩ := hsound.deserted hnil
    refine ⟨hentered, hleft.imp_right fun hnone => ?_⟩
    simp [Gates.enter, hnone]

/-- The first in line has not entered if it waits. -/
theorem not_entered (hsound : Sound key outcomes since shelf entered (ticket :: line) crowd)
    (hwaits : crowd.reads.get? ticket = some .waits) : entered = false := by
  have hpending := hsound.stands.pending ticket List.mem_cons_self
  rw [hwaits] at hpending
  cases entered with
  | false => rfl
  | true => simp at hpending

theorem gate_enter (hsound : Sound key outcomes since shelf entered (ticket :: line) crowd) :
    (crowd.shelf.gates.enter key ticket).gate key = .ofLine true (ticket :: line) := by
  refine Gates.gate_enter.trans ((congrArg (Gate.enter · ticket) hsound.gate).trans (Gate.enter_ofLine.trans ?_))
  simp

/-- A read whose turn it is fetches the value if all fetches before have failed. -/
theorem resume_preserves_sound_of_failing (hsound : Sound key outcomes since shelf false (ticket :: line) crowd)
    (hwaits : crowd.reads.get? ticket = some .waits) (hnow : since ≤ now)
    (hfail : ∀ i < crowd.ended.length, ∃ error, outcomes i = .error error)
    (habsent : crowd.shelf.IsAbsent key since) :
    Sound key outcomes since shelf true (ticket :: line) (crowd.resume key ticket now) := by
  let inside : Shelf κ α := { crowd.shelf with gates := crowd.shelf.gates.enter key ticket }
  have hresume : crowd.resume key ticket now =
      { crowd with
        shelf := inside.touch key
        reads := crowd.reads.insert ticket (.fetches crowd.shelf.epoch true)
        steps := crowd.steps + 1 } := by
    simp only [Crowd.resume, Shelf.resumeRead_of_isAbsent hsound.gate (habsent.later hnow)]
    rfl
  have hepoch : (inside.touch key).epoch = crowd.shelf.epoch := inside.epoch_touch key
  have htally : (inside.touch key).tally = crowd.shelf.tally := inside.tally_touch key
  have hsize : (crowd.reads.insert ticket (.fetches crowd.shelf.epoch true)).size = crowd.reads.size := by
    rw [Table.size_insert, if_neg (by simp [hwaits])]
  rw [hresume]
  refine ⟨?_, ?_, fun hnil => absurd hnil (List.cons_ne_nil _ _), ?_, ?_, ?_, ?_⟩
  · simp only [hepoch]
    exact hsound.stands.enter_preserves_stands
  · rw [Shelf.gates_touch]
    exact hsound.gate_enter
  · exact .failing hfail ((Shelf.isAbsent_congr (inside.ttl_touch key) (inside.slot?_touch key key)).2 habsent)
  · simp only [htally, hsize]
    exact hsound.misses
  · simp only [htally]
    exact hsound.hits
  · have hsteps := hsound.steps
    have hsome := Table.size_ne_zero_of_get? hwaits
    simp only [if_neg hsome, Bool.false_eq_true, if_false] at hsteps
    simp only [hsize, if_neg hsome, if_true]
    omega

/-- A read whose turn it is finds the value that the last fetch has brought, and leaves. -/
theorem resume_preserves_sound_of_brought (hsound : Sound key outcomes since shelf false (ticket :: line) crowd)
    (hwaits : crowd.reads.get? ticket = some .waits) {last : Nat} {slot : Slot κ α}
    (hlast : crowd.ended.length = last + 1) (hfail : ∀ i < last, ∃ error, outcomes i = .error error)
    (hok : outcomes last = .ok slot.value) (hslot : crowd.shelf.slot? key = some slot)
    (hfresh : crowd.shelf.isFresh now slot = true) :
    Sound key outcomes since shelf false line (crowd.resume key ticket now) := by
  let inside : Shelf κ α := { crowd.shelf with gates := crowd.shelf.gates.enter key ticket }
  have hresume : crowd.resume key ticket now =
      { crowd with
        shelf := { inside.touch key with gates := inside.gates.leave key ticket }
        reads := crowd.reads.insert ticket (.returned (.ok slot.value))
        steps := crowd.steps + 1 } := by
    simp only [Crowd.resume, Shelf.resumeRead_of_fresh hsound.gate hslot hfresh]
    rfl
  obtain ⟨hleft, hgone⟩ := Gates.leave_ofLine_cons hsound.gate_enter
  have hepoch : (inside.touch key).epoch = crowd.shelf.epoch := inside.epoch_touch key
  have htally : (inside.touch key).tally = crowd.shelf.tally := inside.tally_touch key
  have hsize : (crowd.reads.insert ticket (.returned (.ok slot.value))).size = crowd.reads.size := by
    rw [Table.size_insert, if_neg (by simp [hwaits])]
  have hnot : ticket ∉ crowd.ended := fun hmem => hsound.stands.not_mem_line ticket hmem List.mem_cons_self
  rw [hresume]
  refine ⟨?_, hleft, fun hnil => ⟨rfl, .inr (hgone hnil)⟩, ?_, ?_, ?_, ?_⟩
  · simp only [hepoch]
    exact hsound.stands.leave_preserves_stands hsound.stands.nodup_ended (fun _ hmem => .inl hmem)
      (.shared hnot (by omega) hok) (fun _ _ _ houtcome => houtcome)
  · exact .brought hlast hfail hok ((inside.slot?_touch key key).trans hslot)
  · simp only [htally, hsize]
    exact hsound.misses
  · simp only [htally]
    exact hsound.hits
  · have hsteps := hsound.steps
    have hsome := Table.size_ne_zero_of_get? hwaits
    simp only [if_neg hsome, List.length_cons] at hsteps
    simp only [hsize, if_neg hsome]
    omega

/-- A read whose turn it is fetches the value, or finds it and leaves. -/
theorem resume_preserves_sound_of_turn (hsound : Sound key outcomes since shelf entered (ticket :: line) crowd)
    (hwaits : crowd.reads.get? ticket = some .waits) (hnow : since ≤ now)
    (hfresh : crowd.HasBrought outcomes →
      ∀ slot, crowd.shelf.slot? key = some slot → crowd.shelf.isFresh now slot = true) :
    Sound key outcomes since shelf true (ticket :: line) (crowd.resume key ticket now) ∨
      Sound key outcomes since shelf false line (crowd.resume key ticket now) := by
  obtain rfl := hsound.not_entered hwaits
  cases hsound.course with
  | failing hfail habsent => exact .inl (hsound.resume_preserves_sound_of_failing hwaits hnow hfail habsent)
  | @brought last slot hlast hfail hok hslot =>
    have hbrought : crowd.HasBrought outcomes := ⟨last, by omega, slot.value, hok⟩
    exact .inr (hsound.resume_preserves_sound_of_brought hwaits hlast hfail hok hslot (hfresh hbrought slot hslot))

/-- A value that is fetched in the present epoch is put on the shelf, and an error leaves the shelf as it is. -/
theorem finish_cases (hfail : ∀ i < crowd.ended.length, ∃ error, outcomes i = .error error)
    (habsent : crowd.shelf.IsAbsent key since) (ticket : Ticket) (now : Instant) :
    ∃ stored : Shelf κ α,
      crowd.shelf.finishRead ticket key crowd.shelf.epoch true (outcomes crowd.ended.length) now =
        { stored with gates := stored.gates.leave key ticket } ∧
      stored.gates = crowd.shelf.gates ∧ stored.epoch = crowd.shelf.epoch ∧
      stored.tally.hits = crowd.shelf.tally.hits ∧ stored.tally.misses = crowd.shelf.tally.misses ∧
      Course key outcomes since stored (crowd.ended.length + 1) false := by
  cases houtcome : outcomes crowd.ended.length with
  | error error =>
    refine ⟨crowd.shelf, rfl, rfl, rfl, rfl, rfl, .failing (fun i hlt => ?_) habsent⟩
    rcases Nat.lt_succ_iff_lt_or_eq.1 hlt with hbefore | rfl
    · exact hfail i hbefore
    · exact ⟨error, houtcome⟩
  | ok value =>
    refine ⟨crowd.shelf.put key value now, ?_, crowd.shelf.gates_put key value now,
      crowd.shelf.epoch_put key value now, crowd.shelf.hits_put key value now,
      crowd.shelf.misses_put key value now, .brought rfl hfail houtcome (crowd.shelf.slot?_put key value now)⟩
    simp only [Shelf.finishRead, Shelf.putIfCurrent, if_true]

/-- A fetch that ends is that of the first in line, who leaves. -/
theorem finish_preserves_sound (hsound : Sound key outcomes since shelf entered line crowd) {epoch : Nat} {gated : Bool}
    (hfetches : crowd.reads.get? ticket = some (.fetches epoch gated)) :
    ∃ rest, Sound key outcomes since shelf false rest
      (crowd.finish key ticket epoch gated (outcomes crowd.ended.length) now) := by
  obtain ⟨rfl, hhead, rfl, rfl⟩ := hsound.stands.of_fetches hfetches
  obtain ⟨rest, rfl⟩ : ∃ rest, line = ticket :: rest := List.head?_eq_some_iff.1 hhead
  refine ⟨rest, ?_⟩
  have hstands := hsound.stands
  have hnot : ticket ∉ crowd.ended := fun hmem => hstands.not_mem_line ticket hmem List.mem_cons_self
  -- Nobody would fetch if the value had been brought.
  obtain ⟨hfail, habsent⟩ : (∀ i < crowd.ended.length, ∃ error, outcomes i = .error error) ∧
      crowd.shelf.IsAbsent key since := by
    cases hsound.course with
    | failing hfail habsent => exact ⟨hfail, habsent⟩
  have hold : (crowd.reads.insert ticket (.returned (outcomes crowd.ended.length))).size = crowd.reads.size := by
    rw [Table.size_insert, if_neg (by simp [hfetches])]
  have hsome := Table.size_ne_zero_of_get? hfetches
  obtain ⟨stored, hfinish, hgates, hepoch, hhits, hmisses, hcourse⟩ := finish_cases hfail habsent ticket now
  have hgate : stored.gates.gate key = .ofLine true (ticket :: rest) := hgates ▸ hsound.gate
  obtain ⟨hleft, hgone⟩ := Gates.leave_ofLine_cons hgate
  simp only [Crowd.finish, hfinish]
  refine ⟨?_, hleft, fun hnil => ⟨rfl, .inr (hgone hnil)⟩, ?_, ?_, hhits.trans hsound.hits, ?_⟩
  · simp only [hepoch]
    refine hstands.leave_preserves_stands ?_ ?_ (.own (by simp)) ?_
    · rw [← List.concat_eq_append, List.nodup_concat]
      exact ⟨hnot, hstands.nodup_ended⟩
    · intro other hmem
      rwa [List.mem_append, List.mem_singleton] at hmem
    · exact fun _ _ _ houtcome => houtcome.concat hfail ticket
  · rw [List.length_append, List.length_singleton]
    exact hcourse.congr rfl rfl
  · simp only [hold, hmisses]
    exact hsound.misses
  · have hsteps := hsound.steps
    simp only [if_neg hsome, if_true, List.length_cons] at hsteps
    simp only [hold, if_neg hsome, List.length_append, List.length_singleton, Bool.false_eq_true, if_false]
    omega

/-- What happens to another key changes nothing but the counts. -/
theorem pass_preserves_sound (hsound : Sound key outcomes since shelf entered line crowd) {after : Shelf κ α}
    (helse : crowd.shelf.Elsewhere key after)
    (hkept : crowd.HasBrought outcomes → after.slot? key = crowd.shelf.slot? key) :
    Sound key outcomes since shelf entered line (crowd.pass after) := by
  have halone := helse.leavesAlone
  have hgate : after.gates.gate key = crowd.shelf.gates.gate key := by
    rw [Gates.gate, Gates.gate, halone.gate]
  refine ⟨?_, hgate.trans hsound.gate, ?_, ?_, ?_, ?_, hsound.steps⟩
  · simp only [Crowd.pass, halone.epoch]
    exact hsound.stands
  · intro hnil
    exact ⟨(hsound.deserted hnil).1, (hsound.deserted hnil).2.imp_right halone.gate.trans⟩
  · cases hsound.course with
    | failing hfail habsent =>
      refine .failing hfail ?_
      rcases halone.slot with hsame | hnone
      · exact (Shelf.isAbsent_congr halone.ttl hsame).2 habsent
      · exact Shelf.isAbsent_of_slot? hnone
    | @brought last slot hlast hfail hok hslot =>
      exact .brought hlast hfail hok ((hkept ⟨last, by omega, slot.value, hok⟩).trans hslot)
  · have hmisses := hsound.misses
    have hle := halone.misses_le
    simp only [Crowd.pass]
    omega
  · have hhits := hsound.hits
    have hle := halone.hits_le
    simp only [Crowd.pass]
    omega

end Sound

theorem Runs.sound {key : κ} {outcomes : Nat → Except ε α} {since : Instant} {shelf : Shelf κ α} {crowd : Crowd κ α ε}
    (hruns : Runs key outcomes since shelf crowd) (hfree : shelf.gates.gate key = {})
    (habsent : shelf.IsAbsent key since) :
    ∃ entered line, Sound key outcomes since shelf entered line crowd := by
  -- The line is not part of the crowd: each step of the run tells the next line from the one before.
  induction hruns with
  | begin => exact ⟨_, _, .of_isAbsent hfree habsent⟩
  | start _ hnew hearly hnow ih =>
    obtain ⟨entered, line, hsound⟩ := ih
    exact ⟨_, _, hsound.start_preserves_sound hnew hearly hnow⟩
  | @resume crowd _ ticket hwaits now hnow hfresh ih =>
    obtain ⟨entered, line, hsound⟩ := ih
    by_cases hturn : line.head? = some ticket
    · obtain ⟨rest, rfl⟩ : ∃ rest, line = ticket :: rest := List.head?_eq_some_iff.1 hturn
      rcases hsound.resume_preserves_sound_of_turn hwaits hnow hfresh with hfetches | hfound
      · exact ⟨_, _, hfetches⟩
      · exact ⟨_, _, hfound⟩
    · exact ⟨_, _, hsound.resume_preserves_sound_of_not_turn hturn⟩
  | finish _ hfetches now ih =>
    obtain ⟨entered, line, hsound⟩ := ih
    obtain ⟨rest, hrest⟩ := hsound.finish_preserves_sound hfetches
    exact ⟨_, _, hrest⟩
  | elsewhere _ helse hkept ih =>
    obtain ⟨entered, line, hsound⟩ := ih
    exact ⟨_, _, hsound.pass_preserves_sound helse hkept⟩

/-- No read can go on: nobody fetches, and whoever waits would go on waiting. -/
def IsAtRest (key : κ) (crowd : Crowd κ α ε) : Prop :=
  ∀ ticket stage, crowd.reads.get? ticket = some stage → (∃ outcome, stage = .returned outcome) ∨
    stage = .waits ∧ ∃ now, (crowd.shelf.resumeRead ticket key now).2 = .waits

namespace Stands

variable {outcomes : Nat → Except ε α} {epoch : Nat} {entered : Bool} {line ended : List Ticket}
  {reads : Table Ticket (Stage α ε)} {ticket : Ticket}

theorem length_ended_le (hstands : Stands outcomes epoch entered line reads ended) : ended.length ≤ reads.size := by
  have hsub : ended ⊆ reads.keys := by
    intro ticket hmem
    obtain ⟨stage, hstage⟩ := hstands.started ticket hmem
    exact Table.mem_keys_of_mem (Table.get?_eq_some_iff.1 hstage)
  have hle := (List.subperm_of_subset hstands.nodup_ended hsub).length_le
  rwa [Table.keys, List.length_map] at hle

/-- A read whose fetch has ended has returned the outcome. -/
theorem get?_of_ended (hstands : Stands outcomes epoch entered line reads ended) {i : Nat}
    (hended : ended[i]? = some ticket) : reads.get? ticket = some (.returned (outcomes i)) := by
  have hmem : ticket ∈ ended := List.mem_of_getElem? hended
  obtain ⟨stage, hstage⟩ := hstands.started ticket hmem
  obtain ⟨outcome, rfl, houtcome⟩ := hstands.gone ticket stage hstage (hstands.not_mem_line ticket hmem)
  cases houtcome with
  | @own other hother =>
    obtain ⟨hlt, -⟩ := List.getElem?_eq_some_iff.1 hended
    obtain rfl : i = other := (List.getElem?_inj hlt hstands.nodup_ended).1 (hended.trans hother.symm)
    exact hstage
  | shared hnot => exact absurd hmem hnot

/-- If all fetches have failed, every read that has returned has fetched. -/
theorem length_ended_of_failing (hstands : Stands outcomes epoch entered [] reads ended)
    (hfail : ∀ i < ended.length, ∃ error, outcomes i = .error error) : ended.length = reads.size := by
  refine Nat.le_antisymm hstands.length_ended_le ?_
  have hsub : reads.keys ⊆ ended := by
    intro ticket hmem
    obtain ⟨⟨_, stage⟩, hentry, rfl⟩ := List.mem_map.1 hmem
    obtain ⟨outcome, -, houtcome⟩ := hstands.gone _ stage (Table.get?_eq_some_iff.2 hentry) List.not_mem_nil
    cases houtcome with
    | own hended => exact List.mem_of_getElem? hended
    | shared _ hlt hok =>
      obtain ⟨error, herror⟩ := hfail _ hlt
      rw [herror] at hok
      cases hok
  have hle := (List.subperm_of_subset reads.nodup_keys hsub).length_le
  rwa [List.length_map] at hle

end Stands

namespace Sound

variable {key : κ} {outcomes : Nat → Except ε α} {since : Instant} {shelf : Shelf κ α} {entered : Bool}
  {line : List Ticket} {crowd : Crowd κ α ε} {ticket : Ticket}

/-- Nobody stands in line when no read can go on. -/
theorem line_eq_nil (hsound : Sound key outcomes since shelf entered line crowd) (hrest : crowd.IsAtRest key) :
    line = [] := by
  cases line with
  | nil => rfl
  | cons owner rest =>
    have howner := hsound.stands.pending owner List.mem_cons_self
    rcases hrest owner _ howner with ⟨outcome, hreturned⟩ | ⟨-, now, hwaits⟩
    · split at hreturned <;> cases hreturned
    · exact absurd hwaits (Shelf.resumeRead_ne_waits hsound.gate)

theorem steps_le (hsound : Sound key outcomes since shelf entered line crowd) :
    crowd.steps ≤ 2 * crowd.reads.size := by
  have hle := hsound.stands.length_ended_le
  have hsteps := hsound.steps
  cases line with
  | nil =>
    rw [(hsound.deserted rfl).1] at hsteps
    simp at hsteps
    omega
  | cons owner rest =>
    rw [List.length_cons] at hsteps
    split at hsteps <;> split at hsteps <;> omega

/-- If so many fetches fail, and the next brings the value, no more are made, and no fewer if there are as many
reads. -/
theorem length_ended (hsound : Sound key outcomes since shelf entered [] crowd) {fails : Nat} {value : α}
    (hfail : ∀ i < fails, ∃ error, outcomes i = .error error)
    (hok : fails < crowd.reads.size → outcomes fails = .ok value) :
    crowd.ended.length = min crowd.reads.size (fails + 1) := by
  have hle := hsound.stands.length_ended_le
  cases hsound.course with
  | failing hallfail habsent =>
    -- Every read has fetched, so there were not enough of them to come to the fetch that brings the value.
    have hall := hsound.stands.length_ended_of_failing hallfail
    have hfew : crowd.reads.size ≤ fails := by
      refine Nat.le_of_not_lt fun hlt => ?_
      obtain ⟨error, herror⟩ := hallfail fails (hall.symm ▸ hlt)
      rw [hok hlt] at herror
      cases herror
    omega
  | @brought last slot hlast hbefore hbrought hslot =>
    -- The last fetch is the first that has not failed.
    obtain rfl : last = fails := by
      rcases Nat.lt_trichotomy last fails with hlt | heq | hgt
      · obtain ⟨error, herror⟩ := hfail last hlt
        rw [herror] at hbrought
        cases hbrought
      · exact heq
      · obtain ⟨error, herror⟩ := hbefore fails hgt
        rw [hok (by omega)] at herror
        cases herror
    omega

/-- Reads other than those whose fetches failed have returned the value. -/
theorem eq_returned_value (hsound : Sound key outcomes since shelf entered [] crowd) {fails : Nat} {value : α}
    (hfail : ∀ i < fails, ∃ error, outcomes i = .error error)
    (hok : fails < crowd.reads.size → outcomes fails = .ok value) {stage : Stage α ε}
    (hstage : crowd.reads.get? ticket = some stage) (hnot : ticket ∉ crowd.ended.take fails) :
    stage = .returned (.ok value) := by
  have hlength := hsound.length_ended hfail hok
  obtain ⟨outcome, rfl, houtcome⟩ := hsound.stands.gone ticket stage hstage List.not_mem_nil
  cases houtcome with
  | @own i hended =>
    obtain ⟨hlt, hget⟩ := List.getElem?_eq_some_iff.1 hended
    have hle : fails ≤ i := by
      refine Nat.le_of_not_lt fun hbefore => hnot ?_
      exact List.mem_take_iff_getElem.2 ⟨i, by omega, hget⟩
    obtain rfl : fails = i := by omega
    rw [hok (by omega)]
  | @shared i other hnotended hlt hshared =>
    have hle : fails ≤ i := by
      refine Nat.le_of_not_lt fun hbefore => ?_
      obtain ⟨error, herror⟩ := hfail i hbefore
      rw [herror] at hshared
      cases hshared
    obtain rfl : fails = i := by omega
    rw [hok (by omega)] at hshared
    cases hshared
    rfl

end Sound

/-- Any number of reads of one absent key are started before the first of their fetches ends; nobody else reads the
key, nothing is dropped, and the value is neither evicted nor too old as long as it is looked for. Then at
no moment do two of the reads fetch. The reads go on at most twice for each of them, and when none can go on
all have returned and the gate is gone. If so many fetches fail and the next brings a value, no more are
made than that one, or than there are reads; the reads whose fetches failed return their own errors, and
all others the value. Each read counts as a miss and none as a hit. -/
theorem Runs.share_one_fetch {key : κ} {outcomes : Nat → Except ε α} {since : Instant} {shelf : Shelf κ α}
    {crowd : Crowd κ α ε} (hruns : Runs key outcomes since shelf crowd) (hfree : shelf.gates.gate key = {})
    (habsent : shelf.IsAbsent key since) :
    (∀ ticket other began began' gated gated', crowd.reads.get? ticket = some (.fetches began gated) →
      crowd.reads.get? other = some (.fetches began' gated') → ticket = other) ∧
    crowd.shelf.tally.misses = shelf.tally.misses + crowd.reads.size + crowd.otherMisses ∧
    crowd.shelf.tally.hits = shelf.tally.hits + crowd.otherHits ∧
    crowd.steps ≤ 2 * crowd.reads.size ∧
    (crowd.IsAtRest key →
      (∀ ticket stage, crowd.reads.get? ticket = some stage → ∃ outcome, stage = .returned outcome) ∧
      (0 < crowd.reads.size → crowd.shelf.gates.table.get? key = none) ∧
      ∀ fails value, (∀ i < fails, ∃ error, outcomes i = .error error) →
        (fails < crowd.reads.size → outcomes fails = .ok value) →
        crowd.ended.length = min crowd.reads.size (fails + 1) ∧
        (∀ i < min crowd.reads.size fails, ∃ ticket, crowd.ended[i]? = some ticket ∧
          crowd.reads.get? ticket = some (.returned (outcomes i))) ∧
        ∀ ticket stage, crowd.reads.get? ticket = some stage → ticket ∉ crowd.ended.take fails →
          stage = .returned (.ok value)) := by
  obtain ⟨entered, line, hsound⟩ := hruns.sound hfree habsent
  refine ⟨?_, hsound.misses, hsound.hits, hsound.steps_le, fun hrest => ?_⟩
  · intro ticket other began began' gated gated' hfetches hother
    obtain ⟨-, hhead, -⟩ := hsound.stands.of_fetches hfetches
    obtain ⟨-, hhead', -⟩ := hsound.stands.of_fetches hother
    exact Option.some.inj (hhead.symm.trans hhead')
  · obtain rfl := hsound.line_eq_nil hrest
    refine ⟨?_, ?_, ?_⟩
    · intro ticket stage hstage
      obtain ⟨outcome, hreturned, -⟩ := hsound.stands.gone ticket stage hstage List.not_mem_nil
      exact ⟨outcome, hreturned⟩
    · exact fun hsome => (hsound.deserted rfl).2.resolve_left (Nat.pos_iff_ne_zero.1 hsome)
    · intro fails value hfail hok
      have hlength := hsound.length_ended hfail hok
      refine ⟨hlength, fun i hlt => ?_, ?_⟩
      · have hbound : i < crowd.ended.length := by omega
        exact ⟨crowd.ended[i], List.getElem?_eq_getElem hbound,
          hsound.stands.get?_of_ended (List.getElem?_eq_getElem hbound)⟩
      · exact fun ticket stage hstage hnot => hsound.eq_returned_value hfail hok hstage hnot

/-- Of three reads the first fails to fetch the value, the second fetches it, and the third returns what the second
has brought. -/
theorem third_read_returns_what_second_brings :
    let shelf : Shelf Nat String := .create 4 none (by decide)
    let outcomes : Nat → Except String String := fun i => if i = 0 then .error "unavailable" else .ok "value"
    shelf.gates.gate 1 = {} ∧ shelf.IsAbsent 1 ⟨0⟩ ∧
      ∃ crowd : Crowd Nat String String, Runs 1 outcomes ⟨0⟩ shelf crowd ∧ crowd.IsAtRest 1 ∧
        crowd.reads.size = 3 ∧ crowd.ended.length = 2 ∧ crowd.shelf.tally.misses = 3 ∧
        crowd.shelf.gates.table.get? 1 = none ∧ crowd.reads.get? 2 = some (.returned (.ok "value")) := by
  intro shelf outcomes
  have hfree : shelf.gates.gate 1 = {} := rfl
  have habsent : shelf.IsAbsent 1 ⟨0⟩ := Shelf.isAbsent_of_slot? rfl
  let asked : Crowd Nat String String :=
    ((({ shelf := shelf } : Crowd Nat String String).start 1 0 ⟨0⟩).start 1 1 ⟨1⟩).start 1 2 ⟨2⟩
  let failed := asked.finish 1 0 0 true (outcomes asked.ended.length) ⟨3⟩
  let fetching := failed.resume 1 1 ⟨4⟩
  let brought := fetching.finish 1 1 0 true (outcomes fetching.ended.length) ⟨5⟩
  let crowd := brought.resume 1 2 ⟨6⟩
  have hfresh {crowd : Crowd Nat String String} (httl : crowd.shelf.ttl = none) (now : Instant) :
      ∀ slot, crowd.shelf.slot? 1 = some slot → crowd.shelf.isFresh now slot = true := by
    intro slot _
    rw [Shelf.isFresh, httl]
    rfl
  have hruns : Runs 1 outcomes ⟨0⟩ shelf crowd := by
    have hasked : Runs 1 outcomes ⟨0⟩ shelf asked :=
      .start (.start (.start .begin rfl rfl (by decide)) (by decide +kernel) rfl (by decide)) (by decide +kernel) rfl
        (by decide)
    have hfailed : Runs 1 outcomes ⟨0⟩ shelf failed := .finish hasked (by decide +kernel) ⟨3⟩
    have hfetches : Runs 1 outcomes ⟨0⟩ shelf fetching :=
      .resume hfailed (by decide +kernel) (by decide) fun _ => hfresh (by decide +kernel) ⟨4⟩
    have hbrought : Runs 1 outcomes ⟨0⟩ shelf brought := .finish hfetches (by decide +kernel) ⟨5⟩
    exact .resume hbrought (by decide +kernel) (by decide) fun _ => hfresh (by decide +kernel) ⟨6⟩
  have hentries : crowd.reads.entries =
      [(0, .returned (.error "unavailable")), (1, .returned (.ok "value")), (2, .returned (.ok "value"))] := by
    decide +kernel
  have hsize : crowd.reads.size = 3 := congrArg List.length hentries
  have hrest : crowd.IsAtRest 1 := by
    intro ticket stage hstage
    rw [Table.get?_eq_some_iff, hentries] at hstage
    simp only [List.mem_cons, Prod.mk.injEq, List.not_mem_nil, or_false] at hstage
    rcases hstage with ⟨-, rfl⟩ | ⟨-, rfl⟩ | ⟨-, rfl⟩ <;> exact .inl ⟨_, rfl⟩
  have hthird : crowd.reads.get? 2 = some (.returned (.ok "value")) := by
    rw [Table.get?_eq_some_iff, hentries]
    simp
  obtain ⟨-, hmisses, -, -, hreturned⟩ := Runs.share_one_fetch hruns hfree habsent
  obtain ⟨-, hgone, hfails⟩ := hreturned hrest
  obtain ⟨hlength, -, -⟩ := hfails 1 "value" (by simp [outcomes]) (fun _ => rfl)
  have hothers : crowd.otherMisses = 0 := by decide +kernel
  rw [hsize] at hlength hmisses hgone
  rw [hothers] at hmisses
  exact ⟨hfree, habsent, crowd, hruns, hrest, hsize, hlength, hmisses, hgone (by decide), hthird⟩

end Crowd

end ChatNotify.Cache
