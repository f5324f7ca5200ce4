import ChatNotify.Proofs.Cache.Apart

namespace ChatNotify

namespace Gate

/-- The gate at which a line stands. It belongs to the first in the line, who has entered or not. -/
def ofLine (entered : Bool) : List Ticket → Gate
  | [] => {}
  | owner :: waiting => { owner := some owner, entered := entered, waiting := waiting }

variable {entered : Bool} {ticket : Ticket} {line : List Ticket}

theorem ask_ofLine : (ofLine entered line).ask ticket = ofLine (entered || line.isEmpty) (line ++ [ticket]) := by
  cases line with
  | nil => simp [ofLine, ask]
  | cons owner rest => simp [ofLine, ask]

theorem enter_ofLine : (ofLine entered line).enter ticket = ofLine (entered || line.head? = some ticket) line := by
  cases line with
  | nil => simp [ofLine, enter]
  | cons owner rest =>
    by_cases howner : owner = ticket
    · simp [ofLine, enter, howner]
    · simp [ofLine, enter, howner]

theorem leave_ofLine_cons : (ofLine entered (ticket :: line)).leave ticket = ofLine false line := by
  cases line <;> simp [ofLine, leave, passOn]

theorem isHeldBy_ofLine : (ofLine entered line).isHeldBy ticket = (entered && line.head? = some ticket) := by
  cases line with
  | nil => simp [ofLine, isHeldBy]
  | cons owner rest => simp [ofLine, isHeldBy, Bool.and_comm]

end Gate

namespace Cache

namespace Gates

variable {κ : Type} [DecidableEq κ] {gates : Gates κ} {key : κ} {ticket : Ticket}

theorem gate_ask : (gates.ask key ticket).gate key = (gates.gate key).ask ticket := by
  simp [ask, gate, Table.get?_insert]

theorem gate_enter : (gates.enter key ticket).gate key = (gates.gate key).enter ticket := by
  unfold enter gate
  cases hgate : gates.table.get? key with
  | none => simp [hgate, Gate.enter]
  | some found => simp [Table.get?_insert]

/-- Who is at the head of the line leaves it, and the gate goes away with the last. -/
theorem leave_ofLine_cons {line : List Ticket} (hgate : gates.gate key = .ofLine true (ticket :: line)) :
    (gates.leave key ticket).gate key = .ofLine false line ∧
      (line = [] → (gates.leave key ticket).table.get? key = none) := by
  have hfound : gates.table.get? key = some (.ofLine true (ticket :: line)) := by
    unfold gate at hgate
    cases hget : gates.table.get? key with
    | none =>
      rw [hget] at hgate
      cases hgate
    | some found =>
      rw [hget] at hgate
      exact congrArg some hgate
  have hheld : (Gate.ofLine true (ticket :: line)).isHeldBy ticket = true := by simp [Gate.isHeldBy_ofLine]
  unfold leave
  simp only [hfound, hheld, Gate.leave_ofLine_cons, Bool.true_and]
  cases line with
  | nil => simp [Gate.ofLine, Gate.isDeserted, gate, Table.get?_erase]
  | cons next rest => simp [Gate.ofLine, Gate.isDeserted, gate, Table.get?_insert]

end Gates

namespace Shelf

variable {κ α ε : Type} [DecidableEq κ] {shelf : Shelf κ α} {key : κ} {ticket : Ticket} {now : Instant}

/-- The value of the key is not there, or too old. -/
def IsAbsent (shelf : Shelf κ α) (key : κ) (now : Instant) : Prop :=
  ∀ slot, shelf.slot? key = some slot → shelf.isFresh now slot = false

/-- What is too old stays too old. -/
theorem IsAbsent.later {since : Instant} (habsent : shelf.IsAbsent key since) (hle : since ≤ now) :
    shelf.IsAbsent key now := by
  intro slot hslot
  have hold := habsent slot hslot
  unfold isFresh at hold ⊢
  cases httl : shelf.ttl with
  | none =>
    rw [httl] at hold
    cases hold
  | some ttl =>
    rw [httl] at hold
    simp only [Option.all_some, decide_eq_false_iff_not, Instant.not_lt] at hold ⊢
    exact Instant.le_trans hold hle

theorem isAbsent_congr {other : Shelf κ α} (httl : other.ttl = shelf.ttl) (hslot : other.slot? key = shelf.slot? key) :
    other.IsAbsent key now ↔ shelf.IsAbsent key now := by
  simp only [IsAbsent, isFresh, httl, hslot]

theorem isAbsent_of_slot? (hslot : shelf.slot? key = none) : shelf.IsAbsent key now := by
  intro slot hfound
  rw [hslot] at hfound
  cases hfound

theorem lookAgain_of_isAbsent (habsent : shelf.IsAbsent key now) : (shelf.lookAgain key now).2 = none := by
  unfold lookAgain
  rw [Option.map_eq_none_iff, Option.filter_eq_none_iff]
  intro slot hslot
  simp [habsent slot hslot]

theorem lookAgain_of_fresh {slot : Slot κ α} (hslot : shelf.slot? key = some slot)
    (hfresh : shelf.isFresh now slot = true) : (shelf.lookAgain key now).2 = some slot.value := by
  change ((shelf.slot? key).filter (shelf.isFresh now)).map Slot.value = _
  rw [hslot, Option.filter_some_pos hfresh]
  rfl

/-- The shelf when a value that is absent has been looked up. -/
def missed (shelf : Shelf κ α) (key : κ) : Shelf κ α :=
  { shelf.erase key with tally := { shelf.tally with misses := shelf.tally.misses + 1 } }

theorem slot?_missed (shelf : Shelf κ α) (key : κ) : (shelf.missed key).slot? key = none :=
  shelf.slot?_erase key

theorem get_of_isAbsent (habsent : shelf.IsAbsent key now) : shelf.get key now = (shelf.missed key, none) := by
  unfold get missed
  split
  · next slot hslot => rw [habsent slot hslot, if_neg Bool.false_ne_true]
  · next hslot =>
    -- There is nothing to erase.
    simp only [erase, others_of_slot? hslot]

/-- A lookup finds a fresh value, or misses one that is absent. -/
theorem get_cases (shelf : Shelf κ α) (key : κ) (now : Instant) :
    (∃ slot, shelf.slot? key = some slot ∧ shelf.isFresh now slot = true ∧ shelf.get key now =
      ({ shelf.touch key with tally := { shelf.tally with hits := shelf.tally.hits + 1 } }, some slot.value)) ∨
    shelf.IsAbsent key now ∧ shelf.get key now = (shelf.missed key, none) := by
  by_cases habsent : shelf.IsAbsent key now
  · exact .inr ⟨habsent, get_of_isAbsent habsent⟩
  · simp only [IsAbsent, not_forall, Bool.not_eq_false] at habsent
    obtain ⟨slot, hslot, hfresh⟩ := habsent
    refine .inl ⟨slot, hslot, hfresh, ?_⟩
    unfold get
    split
    · next other hother =>
      cases hother.symm.trans hslot
      rw [if_pos hfresh]
    · next hnone =>
      rw [hslot] at hnone
      cases hnone

theorem passGate_of_not_held (hheld : shelf.gates.isHeldBy key ticket = false) :
    shelf.passGate ticket key now = (shelf, .waits) := by
  unfold passGate
  rw [hheld]
  rfl

theorem passGate_of_isAbsent (hheld : shelf.gates.isHeldBy key ticket = true) (habsent : shelf.IsAbsent key now) :
    shelf.passGate ticket key now = (shelf.touch key, .fetches shelf.epoch true) := by
  have hlook : shelf.lookAgain key now = (shelf.touch key, (shelf.lookAgain key now).2) := rfl
  unfold passGate
  rw [if_pos hheld, hlook, lookAgain_of_isAbsent habsent, ← shelf.epoch_touch key]

theorem passGate_of_fresh (hheld : shelf.gates.isHeldBy key ticket = true) {slot : Slot κ α}
    (hslot : shelf.slot? key = some slot) (hfresh : shelf.isFresh now slot = true) :
    shelf.passGate ticket key now =
      ({ shelf.touch key with gates := shelf.gates.leave key ticket }, .found slot.value) := by
  have hlook : shelf.lookAgain key now = (shelf.touch key, (shelf.lookAgain key now).2) := rfl
  unfold passGate
  rw [if_pos hheld, hlook, lookAgain_of_fresh hslot hfresh, ← shelf.gates_touch key]

/-- A read that misses the value joins the line, and fetches the value if nobody else is there. -/
theorem beginRead_of_isAbsent {entered : Bool} {line : List Ticket} (habsent : shelf.IsAbsent key now)
    (hgate : shelf.gates.gate key = .ofLine entered line) (hnew : ticket ∉ line) :
    shelf.beginRead ticket key true now = ({ shelf.missed key with gates := shelf.gates.ask key ticket },
      if line = [] then .fetches shelf.epoch true else .waits) := by
  let asked : Shelf κ α := { shelf.missed key with gates := shelf.gates.ask key ticket }
  have hread : shelf.beginRead ticket key true now = asked.passGate ticket key now := by
    simp only [beginRead, Bool.not_true, Bool.false_eq_true, if_false, get_of_isAbsent habsent]
    rfl
  have hheld : asked.gates.isHeldBy key ticket = decide (line = []) := by
    rw [Gates.isHeldBy, Gates.gate_ask, hgate, Gate.ask_ofLine, Gate.isHeldBy_ofLine]
    cases line with
    | nil => simp
    | cons owner rest =>
      have hne : owner ≠ ticket := fun heq => hnew (by simp [heq])
      simp [hne]
  rw [hread]
  by_cases hline : line = []
  · have hslot : asked.slot? key = none := shelf.slot?_missed key
    rw [passGate_of_isAbsent (hheld.trans (decide_eq_true hline)) (isAbsent_of_slot? hslot), touch_of_slot? hslot,
      if_pos hline]
    rfl
  · rw [passGate_of_not_held (hheld.trans (decide_eq_false hline)), if_neg hline]

section

variable {entered : Bool} {line : List Ticket}

/-- A read whose turn it is not goes on waiting. -/
theorem resumeRead_of_not_turn (hgate : shelf.gates.gate key = .ofLine entered line)
    (hturn : line.head? ≠ some ticket) :
    shelf.resumeRead ticket key now = ({ shelf with gates := shelf.gates.enter key ticket }, .waits) := by
  refine passGate_of_not_held ?_
  rw [Gates.isHeldBy, Gates.gate_enter, hgate, Gate.enter_ofLine, Gate.isHeldBy_ofLine, decide_eq_false hturn,
    Bool.and_false]

private theorem isHeldBy_enter (hgate : shelf.gates.gate key = .ofLine entered (ticket :: line)) :
    (shelf.gates.enter key ticket).isHeldBy key ticket = true := by
  rw [Gates.isHeldBy, Gates.gate_enter, hgate, Gate.enter_ofLine, Gate.isHeldBy_ofLine]
  simp

/-- A read whose turn it is goes on. -/
theorem resumeRead_ne_waits (hgate : shelf.gates.gate key = .ofLine entered (ticket :: line)) :
    (shelf.resumeRead ticket key now).2 ≠ .waits := by
  let inside : Shelf κ α := { shelf with gates := shelf.gates.enter key ticket }
  change (inside.passGate ticket key now).2 ≠ .waits
  rcases inside.passGate_cases ticket key now with ⟨value, -, hpass⟩ | hpass | ⟨hheld, -⟩
  · rw [hpass]
    nofun
  · rw [hpass]
    nofun
  · rw [isHeldBy_enter hgate] at hheld
    cases hheld

/-- A read whose turn it is fetches a value that is absent. -/
theorem resumeRead_of_isAbsent (hgate : shelf.gates.gate key = .ofLine entered (ticket :: line))
    (habsent : shelf.IsAbsent key now) :
    shelf.resumeRead ticket key now =
      (touch { shelf with gates := shelf.gates.enter key ticket } key, .fetches shelf.epoch true) :=
  passGate_of_isAbsent (isHeldBy_enter hgate) habsent

/-- A read whose turn it is finds a value that is there, and leaves. -/
theorem resumeRead_of_fresh (hgate : shelf.gates.gate key = .ofLine entered (ticket :: line)) {slot : Slot κ α}
    (hslot : shelf.slot? key = some slot) (hfresh : shelf.isFresh now slot = true) :
    shelf.resumeRead ticket key now =
      ({ touch { shelf with gates := shelf.gates.enter key ticket } key with
          gates := (shelf.gates.enter key ticket).leave key ticket }, .found slot.value) :=
  passGate_of_fresh (isHeldBy_enter hgate) hslot hfresh

end

end Shelf

end Cache

end ChatNotify
