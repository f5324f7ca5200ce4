import ChatNotify.Proofs.Cache.Rest

namespace ChatNotify.Cache

namespace Gates

variable {κ : Type} [DecidableEq κ] {key other : κ}

theorem get?_ask_of_ne (gates : Gates κ) (hne : other ≠ key) (ticket : Ticket) :
    (gates.ask other ticket).table.get? key = gates.table.get? key := by
  rw [ask, Table.get?_insert, if_neg hne]

theorem get?_enter_of_ne (gates : Gates κ) (hne : other ≠ key) (ticket : Ticket) :
    (gates.enter other ticket).table.get? key = gates.table.get? key := by
  unfold enter
  split
  · rw [Table.get?_insert, if_neg hne]
  · rfl

theorem get?_leave_of_ne (gates : Gates κ) (hne : other ≠ key) (ticket : Ticket) :
    (gates.leave other ticket).table.get? key = gates.table.get? key := by
  unfold leave
  split
  · rfl
  · dsimp only
    split
    · rw [Table.get?_erase, if_neg hne.symm]
    · rw [Table.get?_insert, if_neg hne]

end Gates

namespace Shelf

variable {κ α : Type} [DecidableEq κ] {key other : κ}

/-- What is known of one key has not changed from one shelf to the next, except that its value may have gone. -/
structure LeavesAlone (key : κ) (before after : Shelf κ α) : Prop where
  epoch : after.epoch = before.epoch
  ttl : after.ttl = before.ttl
  gate : after.gates.table.get? key = before.gates.table.get? key
  slot : after.slot? key = before.slot? key ∨ after.slot? key = none
  hits_le : before.tally.hits ≤ after.tally.hits
  misses_le : before.tally.misses ≤ after.tally.misses

/-- Something that happens to another key, and is no drop. -/
inductive Elsewhere (key : κ) (shelf : Shelf κ α) : Shelf κ α → Prop
  | get {other : κ} (hne : other ≠ key) (now : Instant) : Elsewhere key shelf (shelf.get other now).1
  | put {other : κ} (hne : other ≠ key) (value : α) (now : Instant) : Elsewhere key shelf (shelf.put other value now)
  | putIfCurrent {other : κ} (hne : other ≠ key) (value : α) (epoch : Nat) (now : Instant) :
      Elsewhere key shelf (shelf.putIfCurrent other value epoch now).1
  | beginRead {other : κ} (hne : other ≠ key) (ticket : Ticket) (useCache : Bool) (now : Instant) :
      Elsewhere key shelf (shelf.beginRead ticket other useCache now).1
  | resumeRead {other : κ} (hne : other ≠ key) (ticket : Ticket) (now : Instant) :
      Elsewhere key shelf (shelf.resumeRead ticket other now).1
  | finishRead {other : κ} (hne : other ≠ key) {ε : Type} (ticket : Ticket) (epoch : Nat) (gated : Bool)
      (outcome : Except ε α) (now : Instant) :
      Elsewhere key shelf (shelf.finishRead ticket other epoch gated outcome now)
  /-- A read is given up. -/
  | abandon {other : κ} (hne : other ≠ key) (ticket : Ticket) :
      Elsewhere key shelf { shelf with gates := shelf.gates.leave other ticket }

variable {before after later shelf : Shelf κ α}

namespace LeavesAlone

theorem refl (key : κ) (shelf : Shelf κ α) : shelf.LeavesAlone key shelf :=
  ⟨rfl, rfl, rfl, .inl rfl, Nat.le_refl _, Nat.le_refl _⟩

theorem trans (hbefore : before.LeavesAlone key after) (hafter : after.LeavesAlone key later) :
    before.LeavesAlone key later where
  epoch := hafter.epoch.trans hbefore.epoch
  ttl := hafter.ttl.trans hbefore.ttl
  gate := hafter.gate.trans hbefore.gate
  slot := by
    rcases hafter.slot with hsame | hnone
    · rw [hsame]
      exact hbefore.slot
    · exact .inr hnone
  hits_le := Nat.le_trans hbefore.hits_le hafter.hits_le
  misses_le := Nat.le_trans hbefore.misses_le hafter.misses_le

end LeavesAlone

theorem leavesAlone_touch (shelf : Shelf κ α) (other key : κ) : shelf.LeavesAlone key (shelf.touch other) where
  epoch := shelf.epoch_touch other
  ttl := shelf.ttl_touch other
  gate := by rw [gates_touch]
  slot := .inl (shelf.slot?_touch other key)
  hits_le := Nat.le_of_eq (congrArg Tally.hits (shelf.tally_touch other).symm)
  misses_le := Nat.le_of_eq (congrArg Tally.misses (shelf.tally_touch other).symm)

theorem leavesAlone_gates {gates : Gates κ} (hgate : gates.table.get? key = shelf.gates.table.get? key) :
    shelf.LeavesAlone key { shelf with gates := gates } :=
  ⟨rfl, rfl, hgate, .inl rfl, Nat.le_refl _, Nat.le_refl _⟩

theorem leavesAlone_get (hne : other ≠ key) (now : Instant) : shelf.LeavesAlone key (shelf.get other now).1 where
  epoch := shelf.epoch_get other now
  ttl := shelf.ttl_get other now
  gate := by rw [gates_get]
  slot := by
    left
    unfold get
    split
    · split
      · exact shelf.slot?_touch other key
      · exact shelf.slot?_erase_of_ne hne
    · rfl
  hits_le := by
    rw [tally_get]
    split <;> simp
  misses_le := by
    rw [tally_get]
    split <;> simp

theorem leavesAlone_put (hne : other ≠ key) (value : α) (now : Instant) :
    shelf.LeavesAlone key (shelf.put other value now) where
  epoch := shelf.epoch_put other value now
  ttl := shelf.ttl_put other value now
  gate := by rw [gates_put]
  slot := shelf.slot?_put_of_ne hne value now
  hits_le := Nat.le_of_eq (shelf.hits_put other value now).symm
  misses_le := Nat.le_of_eq (shelf.misses_put other value now).symm

theorem leavesAlone_putIfCurrent (hne : other ≠ key) (value : α) (epoch : Nat) (now : Instant) :
    shelf.LeavesAlone key (shelf.putIfCurrent other value epoch now).1 := by
  unfold Shelf.putIfCurrent
  split
  · exact leavesAlone_put hne value now
  · exact .refl key shelf

theorem leavesAlone_passGate (hne : other ≠ key) (ticket : Ticket) (now : Instant) :
    shelf.LeavesAlone key (shelf.passGate ticket other now).1 := by
  have htouch := leavesAlone_touch shelf other key
  rcases shelf.passGate_cases ticket other now with ⟨value, -, hpass⟩ | hpass | ⟨-, hpass⟩
  · rw [hpass]
    exact htouch.trans (leavesAlone_gates (Gates.get?_leave_of_ne _ hne ticket))
  · rw [hpass]
    exact htouch
  · rw [hpass]
    exact .refl key shelf

/-- What happens to another key leaves a key alone. -/
theorem Elsewhere.leavesAlone {before after : Shelf κ α} (helse : before.Elsewhere key after) :
    before.LeavesAlone key after := by
  cases helse with
  | get hne now => exact leavesAlone_get hne now
  | put hne value now => exact leavesAlone_put hne value now
  | putIfCurrent hne value epoch now => exact leavesAlone_putIfCurrent hne value epoch now
  | @beginRead other hne ticket useCache now =>
    have hget : before.LeavesAlone key (before.get other now).1 := leavesAlone_get hne now
    rcases before.beginRead_cases ticket other useCache now with hread | ⟨value, -, hread⟩ | hread
    · rw [hread]
      exact .refl key before
    · rw [hread]
      exact hget
    · rw [hread]
      have hasked := hget.trans (leavesAlone_gates (Gates.get?_ask_of_ne _ hne ticket))
      exact hasked.trans (leavesAlone_passGate hne ticket now)
  | @resumeRead other hne ticket now =>
    exact (leavesAlone_gates (Gates.get?_enter_of_ne _ hne ticket)).trans (leavesAlone_passGate hne ticket now)
  | @finishRead other hne ε ticket epoch gated outcome now =>
    have hleft (shelf : Shelf κ α) : shelf.LeavesAlone key
        (if gated then { shelf with gates := shelf.gates.leave other ticket } else shelf) := by
      split
      · exact leavesAlone_gates (Gates.get?_leave_of_ne _ hne ticket)
      · exact .refl key shelf
    cases outcome with
    | error error => exact hleft before
    | ok value => exact (leavesAlone_putIfCurrent hne value epoch now).trans (hleft _)
  | abandon hne ticket => exact leavesAlone_gates (Gates.get?_leave_of_ne _ hne ticket)

end Shelf

end ChatNotify.Cache
