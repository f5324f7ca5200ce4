import ChatNotify.Cache.Shelf
import Mathlib.Data.List.Nodup

namespace ChatNotify.Cache

namespace Shelf

variable {κ α ε : Type} [DecidableEq κ] {shelf : Shelf κ α}

/-- Who holds the gate finds the value or has to fetch it, and who does not waits. -/
theorem passGate_cases (shelf : Shelf κ α) (ticket : Ticket) (key : κ) (now : Instant) :
    (∃ value, (shelf.lookAgain key now).2 = some value ∧ shelf.passGate ticket key now =
      ({ shelf.touch key with gates := (shelf.touch key).gates.leave key ticket }, .found value)) ∨
    shelf.passGate ticket key now = (shelf.touch key, .fetches (shelf.touch key).epoch true) ∨
    shelf.gates.isHeldBy key ticket = false ∧ shelf.passGate ticket key now = (shelf, .waits) := by
  unfold passGate
  cases hheld : shelf.gates.isHeldBy key ticket with
  | false => exact .inr (.inr ⟨rfl, rfl⟩)
  | true =>
    have hlook : shelf.lookAgain key now = (shelf.touch key, (shelf.lookAgain key now).2) := rfl
    rw [hlook]
    cases (shelf.lookAgain key now).2 with
    | none => exact .inr (.inl rfl)
    | some value => exact .inl ⟨value, rfl, rfl⟩

/-- A read that may not use the shelf fetches; any other finds the value or comes to the gate. -/
theorem beginRead_cases (shelf : Shelf κ α) (ticket : Ticket) (key : κ) (useCache : Bool) (now : Instant) :
    shelf.beginRead ticket key useCache now = (shelf, .fetches shelf.epoch false) ∨
    (∃ value, (shelf.get key now).2 = some value ∧
      shelf.beginRead ticket key useCache now = ((shelf.get key now).1, .found value)) ∨
    shelf.beginRead ticket key useCache now =
      passGate { (shelf.get key now).1 with gates := (shelf.get key now).1.gates.ask key ticket } ticket key now := by
  cases useCache with
  | false => exact .inl rfl
  | true =>
    have hget : shelf.get key now = ((shelf.get key now).1, (shelf.get key now).2) := rfl
    unfold beginRead
    rw [hget]
    cases (shelf.get key now).2 with
    | none => exact .inr (.inr rfl)
    | some value => exact .inr (.inl ⟨value, rfl, rfl⟩)

@[simp] theorem capacity_touch (shelf : Shelf κ α) (key : κ) : (shelf.touch key).capacity = shelf.capacity := by
  unfold touch
  split <;> rfl

@[simp] theorem ttl_touch (shelf : Shelf κ α) (key : κ) : (shelf.touch key).ttl = shelf.ttl := by
  unfold touch
  split <;> rfl

@[simp] theorem epoch_touch (shelf : Shelf κ α) (key : κ) : (shelf.touch key).epoch = shelf.epoch := by
  unfold touch
  split <;> rfl

@[simp] theorem gates_touch (shelf : Shelf κ α) (key : κ) : (shelf.touch key).gates = shelf.gates := by
  unfold touch
  split <;> rfl

@[simp] theorem tally_touch (shelf : Shelf κ α) (key : κ) : (shelf.touch key).tally = shelf.tally := by
  unfold touch
  split <;> rfl

@[simp] theorem ttl_get (shelf : Shelf κ α) (key : κ) (now : Instant) :
    (shelf.get key now).1.ttl = shelf.ttl := by
  unfold get
  split
  · split
    · exact shelf.ttl_touch key
    · rfl
  · rfl

@[simp] theorem epoch_get (shelf : Shelf κ α) (key : κ) (now : Instant) :
    (shelf.get key now).1.epoch = shelf.epoch := by
  unfold get
  split
  · split
    · exact shelf.epoch_touch key
    · rfl
  · rfl

@[simp] theorem gates_get (shelf : Shelf κ α) (key : κ) (now : Instant) :
    (shelf.get key now).1.gates = shelf.gates := by
  unfold get
  split
  · split
    · exact shelf.gates_touch key
    · rfl
  · rfl

/-- A lookup counts as a hit if it finds a value, and else as a miss. -/
@[simp] theorem tally_get (shelf : Shelf κ α) (key : κ) (now : Instant) :
    (shelf.get key now).1.tally =
      if (shelf.get key now).2.isSome then { shelf.tally with hits := shelf.tally.hits + 1 }
      else { shelf.tally with misses := shelf.tally.misses + 1 } := by
  unfold get
  split
  · split <;> rfl
  · rfl

@[simp] theorem capacity_put (shelf : Shelf κ α) (key : κ) (value : α) (now : Instant) :
    (shelf.put key value now).capacity = shelf.capacity := by
  unfold put
  dsimp only
  split <;> rfl

@[simp] theorem ttl_put (shelf : Shelf κ α) (key : κ) (value : α) (now : Instant) :
    (shelf.put key value now).ttl = shelf.ttl := by
  unfold put
  dsimp only
  split <;> rfl

@[simp] theorem epoch_put (shelf : Shelf κ α) (key : κ) (value : α) (now : Instant) :
    (shelf.put key value now).epoch = shelf.epoch := by
  unfold put
  dsimp only
  split <;> rfl

@[simp] theorem gates_put (shelf : Shelf κ α) (key : κ) (value : α) (now : Instant) :
    (shelf.put key value now).gates = shelf.gates := by
  unfold put
  dsimp only
  split <;> rfl

@[simp] theorem hits_put (shelf : Shelf κ α) (key : κ) (value : α) (now : Instant) :
    (shelf.put key value now).tally.hits = shelf.tally.hits := by
  unfold put
  dsimp only
  split <;> rfl

@[simp] theorem misses_put (shelf : Shelf κ α) (key : κ) (value : α) (now : Instant) :
    (shelf.put key value now).tally.misses = shelf.tally.misses := by
  unfold put
  dsimp only
  split <;> rfl

@[simp] theorem ttl_putIfCurrent (shelf : Shelf κ α) (key : κ) (value : α) (epoch : Nat) (now : Instant) :
    (shelf.putIfCurrent key value epoch now).1.ttl = shelf.ttl := by
  unfold putIfCurrent
  split
  · exact shelf.ttl_put key value now
  · rfl

@[simp] theorem epoch_putIfCurrent (shelf : Shelf κ α) (key : κ) (value : α) (epoch : Nat) (now : Instant) :
    (shelf.putIfCurrent key value epoch now).1.epoch = shelf.epoch := by
  unfold putIfCurrent
  split
  · exact shelf.epoch_put key value now
  · rfl

@[simp] theorem gates_putIfCurrent (shelf : Shelf κ α) (key : κ) (value : α) (epoch : Nat) (now : Instant) :
    (shelf.putIfCurrent key value epoch now).1.gates = shelf.gates := by
  unfold putIfCurrent
  split
  · exact shelf.gates_put key value now
  · rfl

@[simp] theorem epoch_invalidate (shelf : Shelf κ α) (key : κ) :
    (shelf.invalidate key).epoch = (shelf.epoch + 1) % wordCount := rfl

omit [DecidableEq κ] in
@[simp] theorem epoch_clear (shelf : Shelf κ α) : shelf.clear.epoch = (shelf.epoch + 1) % wordCount := rfl

@[simp] theorem epoch_passGate (shelf : Shelf κ α) (ticket : Ticket) (key : κ) (now : Instant) :
    (shelf.passGate ticket key now).1.epoch = shelf.epoch := by
  rcases shelf.passGate_cases ticket key now with ⟨value, -, hpass⟩ | hpass | ⟨-, hpass⟩
  · rw [hpass]
    exact shelf.epoch_touch key
  · rw [hpass]
    exact shelf.epoch_touch key
  · rw [hpass]

@[simp] theorem epoch_beginRead (shelf : Shelf κ α) (ticket : Ticket) (key : κ) (useCache : Bool) (now : Instant) :
    (shelf.beginRead ticket key useCache now).1.epoch = shelf.epoch := by
  rcases shelf.beginRead_cases ticket key useCache now with hread | ⟨value, -, hread⟩ | hread
  · rw [hread]
  · rw [hread]
    exact shelf.epoch_get key now
  · rw [hread]
    exact (epoch_passGate _ _ _ _).trans (shelf.epoch_get key now)

@[simp] theorem epoch_resumeRead (shelf : Shelf κ α) (ticket : Ticket) (key : κ) (now : Instant) :
    (shelf.resumeRead ticket key now).1.epoch = shelf.epoch :=
  epoch_passGate { shelf with gates := shelf.gates.enter key ticket } ticket key now

@[simp] theorem epoch_finishRead (shelf : Shelf κ α) (ticket : Ticket) (key : κ) (epoch : Nat) (gated : Bool)
    (outcome : Except ε α) (now : Instant) :
    (shelf.finishRead ticket key epoch gated outcome now).epoch = shelf.epoch := by
  cases outcome with
  | error _ => cases gated <;> rfl
  | ok value =>
    have hstored := shelf.epoch_putIfCurrent key value epoch now
    cases gated with
    | true => exact hstored
    | false => exact hstored

@[simp] theorem gates_finishRead (shelf : Shelf κ α) (ticket : Ticket) (key : κ) (epoch : Nat) (gated : Bool)
    (outcome : Except ε α) (now : Instant) :
    (shelf.finishRead ticket key epoch gated outcome now).gates =
      if gated then shelf.gates.leave key ticket else shelf.gates := by
  cases outcome <;> cases gated <;> simp [finishRead]

theorem epoch_of_passGate {ticket : Ticket} {key : κ} {now : Instant} {epoch : Nat} {gated : Bool}
    (hfetches : (shelf.passGate ticket key now).2 = .fetches epoch gated) : epoch = shelf.epoch := by
  rcases shelf.passGate_cases ticket key now with ⟨value, -, hpass⟩ | hpass | ⟨-, hpass⟩
  · rw [hpass] at hfetches
    cases hfetches
  · rw [hpass] at hfetches
    cases hfetches
    exact shelf.epoch_touch key
  · rw [hpass] at hfetches
    cases hfetches

/-- A fetch bears the epoch in which it begins. -/
theorem epoch_of_beginRead {ticket : Ticket} {key : κ} {useCache : Bool} {now : Instant} {epoch : Nat}
    {gated : Bool} (hfetches : (shelf.beginRead ticket key useCache now).2 = .fetches epoch gated) :
    epoch = shelf.epoch := by
  rcases shelf.beginRead_cases ticket key useCache now with hread | ⟨value, -, hread⟩ | hread
  · rw [hread] at hfetches
    cases hfetches
    rfl
  · rw [hread] at hfetches
    cases hfetches
  · rw [hread] at hfetches
    exact (epoch_of_passGate hfetches).trans (shelf.epoch_get key now)

theorem epoch_of_resumeRead {ticket : Ticket} {key : κ} {now : Instant} {epoch : Nat} {gated : Bool}
    (hfetches : (shelf.resumeRead ticket key now).2 = .fetches epoch gated) : epoch = shelf.epoch :=
  @epoch_of_passGate _ _ _ { shelf with gates := shelf.gates.enter key ticket } _ _ _ _ _ hfetches

theorem mem_slots_of_slot? {key : κ} {slot : Slot κ α} (hslot : shelf.slot? key = some slot) :
    slot ∈ shelf.slots ∧ slot.key = key :=
  ⟨List.mem_of_find?_eq_some hslot, by simpa using List.find?_some hslot⟩

theorem mem_others {key : κ} {slot : Slot κ α} :
    slot ∈ shelf.others key ↔ slot ∈ shelf.slots ∧ slot.key ≠ key := by
  simp [others]

theorem mem_slots_iff_of_slot? {key : κ} {front slot : Slot κ α} (hfront : shelf.slot? key = some front) :
    slot ∈ shelf.slots ↔ slot = front ∨ slot ∈ shelf.others key := by
  obtain ⟨hmem, hkey⟩ := mem_slots_of_slot? hfront
  rw [mem_others]
  constructor
  · intro hslot
    by_cases hsame : slot.key = key
    · exact .inl (List.inj_on_of_nodup_map shelf.nodup_keys hslot hmem (hsame.trans hkey.symm))
    · exact .inr ⟨hslot, hsame⟩
  · rintro (rfl | hother)
    · exact hmem
    · exact hother.1

/-- Where the key is not there, all slots are others. -/
theorem others_of_slot? {key : κ} (hslot : shelf.slot? key = none) : shelf.others key = shelf.slots := by
  rw [others, List.filter_eq_self]
  intro slot hmem
  have hne := List.find?_eq_none.1 hslot slot hmem
  simpa using hne

theorem touch_of_slot? {key : κ} (hslot : shelf.slot? key = none) : shelf.touch key = shelf := by
  unfold touch
  split
  · rfl
  · next slot hfound =>
    rw [hslot] at hfound
    cases hfound

/-- A slot that is touched goes to the front. -/
theorem slots_touch {key : κ} {slot : Slot κ α} (hslot : shelf.slot? key = some slot) :
    (shelf.touch key).slots = slot :: shelf.others key := by
  unfold touch
  split
  · next hnone =>
    rw [hslot] at hnone
    cases hnone
  · next other hother =>
    cases hother.symm.trans hslot
    rfl

/-- The gates do not matter to what is touched. -/
@[simp] theorem touch_gates (shelf : Shelf κ α) (gates : Gates κ) (key : κ) :
    touch { shelf with gates := gates } key = { shelf.touch key with gates := gates } := by
  unfold touch
  split
  · next hnone =>
    split
    · rfl
    · next slot hslot => cases hslot.symm.trans hnone
  · next slot hslot =>
    split
    · next hnone => cases hnone.symm.trans hslot
    · next other hother =>
      cases hother.symm.trans hslot
      rfl

theorem find?_others_of_ne (shelf : Shelf κ α) {key other : κ} (hne : other ≠ key) :
    (shelf.others other).find? (·.key = key) = shelf.slot? key := by
  rw [others, List.find?_filter, slot?]
  congr 1
  funext slot
  by_cases hslot : slot.key = key
  · simp [hslot, hne.symm]
  · simp [hslot]

@[simp] theorem slot?_erase (shelf : Shelf κ α) (key : κ) : (shelf.erase key).slot? key = none := by
  simp [slot?, erase, others]

theorem slot?_erase_of_ne (shelf : Shelf κ α) {key other : κ} (hne : other ≠ key) :
    (shelf.erase other).slot? key = shelf.slot? key :=
  shelf.find?_others_of_ne hne

@[simp] theorem slot?_touch (shelf : Shelf κ α) (other key : κ) : (shelf.touch other).slot? key = shelf.slot? key := by
  unfold touch
  split
  · rfl
  · next slot hslot =>
    obtain rfl : slot.key = other := (mem_slots_of_slot? hslot).2
    by_cases hkey : slot.key = key
    · subst hkey
      refine Eq.trans ?_ hslot.symm
      simp [slot?]
    · rw [← shelf.find?_others_of_ne hkey]
      simp [slot?, hkey]

@[simp] theorem slot?_put (shelf : Shelf κ α) (key : κ) (value : α) (now : Instant) :
    (shelf.put key value now).slot? key = some { key := key, value := value, storedAt := now } := by
  unfold put
  dsimp only
  split <;> simp [slot?]

/-- A value that is put on the shelf may take the place of another. -/
theorem slot?_put_of_ne (shelf : Shelf κ α) {key other : κ} (hne : other ≠ key) (value : α)
    (now : Instant) :
    (shelf.put other value now).slot? key = shelf.slot? key ∨ (shelf.put other value now).slot? key = none := by
  rw [← shelf.find?_others_of_ne hne]
  unfold put
  dsimp only
  split
  · simp [slot?, hne]
  · -- The slot that stands last makes room, and may be that of the key.
    rcases List.eq_nil_or_concat (shelf.others other) with hnil | ⟨init, last, hconcat⟩
    · simp [slot?, hne, hnil]
    · simp only [slot?, hconcat, List.concat_eq_append, List.dropLast_concat, List.find?_append, List.find?_cons, hne,
        decide_false]
      cases init.find? (·.key = key) <;> simp

/-- A value that has just been put on a shelf is found, if values do not become too old. -/
theorem beginRead_put (httl : shelf.ttl = none) (key : κ) (value : α) (stored : Instant) (ticket : Ticket)
    (now : Instant) : ((shelf.put key value stored).beginRead ticket key true now).2 = .found value := by
  have hget : ((shelf.put key value stored).get key now).2 = some value := by
    unfold get
    rw [slot?_put]
    simp [isFresh, httl]
  unfold beginRead
  simp only [Bool.not_true, Bool.false_eq_true, if_false]
  split
  · next hlook =>
    rw [hlook] at hget
    cases hget
    rfl
  · next hlook =>
    rw [hlook] at hget
    cases hget

omit [DecidableEq κ] in
/-- All values on the shelf have the property. -/
def Holds (P : κ → α → Prop) (shelf : Shelf κ α) : Prop :=
  ∀ slot ∈ shelf.slots, P slot.key slot.value

variable {P Q : κ → α → Prop}

omit [DecidableEq κ] in
theorem Holds.imp (hholds : shelf.Holds P) (himp : ∀ key value, P key value → Q key value) : shelf.Holds Q :=
  fun slot hslot => himp _ _ (hholds slot hslot)

omit [DecidableEq κ] in
theorem holds_create (capacity : Nat) (ttl : Option Span) (h : 0 < capacity) :
    (create capacity ttl h : Shelf κ α).Holds P :=
  fun _ hslot => nomatch hslot

theorem Holds.of_slot? (hholds : shelf.Holds P) {key : κ} {slot : Slot κ α}
    (hslot : shelf.slot? key = some slot) : P key slot.value := by
  obtain ⟨hmem, rfl⟩ := mem_slots_of_slot? hslot
  exact hholds slot hmem

theorem Holds.erase_preserves_holds (hholds : shelf.Holds P) (key : κ) :
    (shelf.erase key).Holds fun other value => P other value ∧ other ≠ key := by
  intro slot hslot
  obtain ⟨hmem, hkey⟩ := mem_others.1 hslot
  exact ⟨hholds slot hmem, hkey⟩

theorem Holds.touch_preserves_holds (hholds : shelf.Holds P) (key : κ) : (shelf.touch key).Holds P := by
  unfold Shelf.touch
  split
  · exact hholds
  · next front hfront =>
    intro slot hslot
    rcases List.mem_cons.1 hslot with rfl | hrest
    · exact hholds _ (mem_slots_of_slot? hfront).1
    · exact hholds _ (mem_others.1 hrest).1

theorem Holds.get_preserves_holds (hholds : shelf.Holds P) (key : κ) (now : Instant) :
    (shelf.get key now).1.Holds P := by
  unfold Shelf.get
  split
  · split
    · exact hholds.touch_preserves_holds key
    · exact (hholds.erase_preserves_holds key).imp fun _ _ h => h.1
  · exact hholds

/-- A value that is found was on the shelf. -/
theorem Holds.of_get (hholds : shelf.Holds P) {key : κ} {now : Instant} {value : α}
    (hfound : (shelf.get key now).2 = some value) : P key value := by
  unfold Shelf.get at hfound
  split at hfound
  · next slot hslot =>
    split at hfound
    · cases hfound
      exact hholds.of_slot? hslot
    · cases hfound
  · cases hfound

theorem Holds.of_lookAgain (hholds : shelf.Holds P) {key : κ} {now : Instant} {value : α}
    (hfound : (shelf.lookAgain key now).2 = some value) : P key value := by
  obtain ⟨slot, hslot, rfl⟩ := Option.map_eq_some_iff.1 hfound
  exact hholds.of_slot? (Option.filter_eq_some_iff.1 hslot).1

theorem mem_slots_put {key : κ} {value : α} {now : Instant} {slot : Slot κ α}
    (hslot : slot ∈ (shelf.put key value now).slots) :
    slot = { key := key, value := value, storedAt := now } ∨ slot ∈ shelf.slots := by
  unfold put at hslot
  dsimp only at hslot
  split at hslot
  · rcases List.mem_cons.1 hslot with hnew | hrest
    · exact .inl hnew
    · exact .inr (mem_others.1 hrest).1
  · rcases List.mem_cons.1 hslot with hnew | hrest
    · exact .inl hnew
    · exact .inr (mem_others.1 ((List.dropLast_sublist _).subset hrest)).1

theorem Holds.put_preserves_holds (hholds : shelf.Holds P) {key : κ} {value : α} (hvalue : P key value)
    (now : Instant) : (shelf.put key value now).Holds P := by
  intro slot hslot
  rcases mem_slots_put hslot with rfl | hrest
  · exact hvalue
  · exact hholds slot hrest

theorem Holds.putIfCurrent_preserves_holds (hholds : shelf.Holds P) {key : κ} {value : α} {epoch : Nat}
    (hvalue : shelf.epoch = epoch → P key value) (now : Instant) :
    (shelf.putIfCurrent key value epoch now).1.Holds P := by
  unfold Shelf.putIfCurrent
  split
  · next hepoch => exact hholds.put_preserves_holds (hvalue hepoch) now
  · exact hholds

theorem Holds.invalidate_preserves_holds (hholds : shelf.Holds P) (key : κ) :
    (shelf.invalidate key).Holds fun other value => P other value ∧ other ≠ key :=
  hholds.erase_preserves_holds key

omit [DecidableEq κ] in
theorem holds_clear (shelf : Shelf κ α) : shelf.clear.Holds P :=
  fun _ hslot => nomatch hslot

theorem Holds.passGate_preserves_holds (hholds : shelf.Holds P) (ticket : Ticket) (key : κ) (now : Instant) :
    (shelf.passGate ticket key now).1.Holds P := by
  rcases shelf.passGate_cases ticket key now with ⟨value, -, hpass⟩ | hpass | ⟨-, hpass⟩
  · rw [hpass]
    exact hholds.touch_preserves_holds key
  · rw [hpass]
    exact hholds.touch_preserves_holds key
  · rw [hpass]
    exact hholds

theorem Holds.of_passGate (hholds : shelf.Holds P) {ticket : Ticket} {key : κ} {now : Instant} {value : α}
    (hfound : (shelf.passGate ticket key now).2 = .found value) : P key value := by
  rcases shelf.passGate_cases ticket key now with ⟨other, hlook, hpass⟩ | hpass | ⟨-, hpass⟩
  · rw [hpass] at hfound
    cases hfound
    exact hholds.of_lookAgain hlook
  · rw [hpass] at hfound
    cases hfound
  · rw [hpass] at hfound
    cases hfound

theorem Holds.beginRead_preserves_holds (hholds : shelf.Holds P) (ticket : Ticket) (key : κ) (useCache : Bool)
    (now : Instant) : (shelf.beginRead ticket key useCache now).1.Holds P := by
  have hget := hholds.get_preserves_holds key now
  rcases shelf.beginRead_cases ticket key useCache now with hread | ⟨value, -, hread⟩ | hread
  · rw [hread]
    exact hholds
  · rw [hread]
    exact hget
  · have hasked : Holds P { (shelf.get key now).1 with gates := (shelf.get key now).1.gates.ask key ticket } := hget
    rw [hread]
    exact hasked.passGate_preserves_holds ticket key now

theorem Holds.of_beginRead (hholds : shelf.Holds P) {ticket : Ticket} {key : κ} {useCache : Bool}
    {now : Instant} {value : α} (hfound : (shelf.beginRead ticket key useCache now).2 = .found value) :
    P key value := by
  have hget := hholds.get_preserves_holds key now
  rcases shelf.beginRead_cases ticket key useCache now with hread | ⟨other, hlook, hread⟩ | hread
  · rw [hread] at hfound
    cases hfound
  · rw [hread] at hfound
    cases hfound
    exact hholds.of_get hlook
  · have hasked : Holds P { (shelf.get key now).1 with gates := (shelf.get key now).1.gates.ask key ticket } := hget
    rw [hread] at hfound
    exact hasked.of_passGate hfound

theorem Holds.resumeRead_preserves_holds (hholds : shelf.Holds P) (ticket : Ticket) (key : κ) (now : Instant) :
    (shelf.resumeRead ticket key now).1.Holds P := by
  have hentered : Holds P { shelf with gates := shelf.gates.enter key ticket } := hholds
  exact hentered.passGate_preserves_holds ticket key now

theorem Holds.of_resumeRead (hholds : shelf.Holds P) {ticket : Ticket} {key : κ} {now : Instant} {value : α}
    (hfound : (shelf.resumeRead ticket key now).2 = .found value) : P key value := by
  have hentered : Holds P { shelf with gates := shelf.gates.enter key ticket } := hholds
  exact hentered.of_passGate hfound

/-- A read that ends needs the property only of a value that is still current. -/
theorem Holds.finishRead_preserves_holds (hholds : shelf.Holds P) (ticket : Ticket) {key : κ} {epoch : Nat}
    (gated : Bool) {outcome : Except ε α} (hvalue : ∀ value, outcome = .ok value → shelf.epoch = epoch → P key value)
    (now : Instant) : (shelf.finishRead ticket key epoch gated outcome now).Holds P := by
  cases outcome with
  | error _ =>
    cases gated with
    | true => exact hholds
    | false => exact hholds
  | ok value =>
    have hstored := hholds.putIfCurrent_preserves_holds (hvalue value rfl) now
    cases gated with
    | true => exact hstored
    | false => exact hstored

end Shelf

end ChatNotify.Cache
