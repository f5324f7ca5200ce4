import ChatNotify.Proofs.Cache.Interleaving
import ChatNotify.Proofs.Cache.Ledger

namespace ChatNotify.Cache

variable {κ α : Type}

/-- The keys on the shelf, the most recently used first. -/
def Shelf.keys (shelf : Shelf κ α) : List κ :=
  shelf.slots.map Slot.key

variable [DecidableEq κ]

/-- A shelf, and the reads that have not returned. -/
structure Usage (κ α : Type) where
  shelf : Shelf κ α
  reads : Table Ticket (Phase κ) := ∅
  /-- How many reads have been started. -/
  started : Nat := 0

/-- What may be done with a shelf. -/
inductive Use (κ α ε : Type) where
  | put (key : κ) (value : α)
  | putIfCurrent (key : κ) (value : α) (epoch : Nat)
  | get (key : κ)
  | invalidate (key : κ)
  | clear
  | start (key : κ) (useCache : Bool)
  /-- A read that waits looks whether it is its turn. -/
  | resume (read : Ticket)
  /-- The fetch of a read comes to an outcome. -/
  | finish (read : Ticket) (outcome : Except ε α)

namespace Usage

/-- The reads after one of them has come to a reading. -/
def settle (reads : Table Ticket (Phase κ)) (read : Ticket) (key : κ) : Reading α → Table Ticket (Phase κ)
  | .found _ => reads.erase read
  | .waits => reads.insert read (.waits key)
  | .fetches epoch gated => reads.insert read (.fetches key epoch gated)

/-- The lookup with which a read begins. -/
def lookUpOf (key : κ) : Reading α → Act κ α
  | .found value => .lookUp key (some value)
  | .waits | .fetches .. => .lookUp key none

/-- The lookup of a read that goes on, if it is its turn. -/
def lookAgainOf? (key : κ) : Reading α → Option (Act κ α)
  | .found _ | .fetches .. => some (.lookAgain key)
  | .waits => none

/-- Lets one thing happen, and tells what happens to values. -/
def step {ε : Type} (usage : Usage κ α) (now : Instant) : Use κ α ε → Usage κ α × Option (Act κ α)
  | .put key value => ({ usage with shelf := usage.shelf.put key value now }, some (.store key value))
  | .putIfCurrent key value epoch =>
    let (shelf, stored) := usage.shelf.putIfCurrent key value epoch now
    ({ usage with shelf := shelf }, if stored then some (.store key value) else none)
  | .get key =>
    let (shelf, found) := usage.shelf.get key now
    ({ usage with shelf := shelf }, some (.lookUp key found))
  | .invalidate key => ({ usage with shelf := usage.shelf.invalidate key }, some (.invalidate key))
  | .clear => ({ usage with shelf := usage.shelf.clear }, some .clear)
  | .start key useCache =>
    let (shelf, reading) := usage.shelf.beginRead usage.started key useCache now
    ({ shelf, reads := settle usage.reads usage.started key reading, started := usage.started + 1 },
      if useCache then some (lookUpOf key reading) else none)
  | .resume read =>
    match usage.reads.get? read with
    | some (.waits key) =>
      let (shelf, reading) := usage.shelf.resumeRead read key now
      ({ usage with shelf, reads := settle usage.reads read key reading }, lookAgainOf? key reading)
    | _ => (usage, none)
  | .finish read outcome =>
    match usage.reads.get? read with
    | some (.fetches key epoch gated) =>
      ({ usage with
          shelf := usage.shelf.finishRead read key epoch gated outcome now
          reads := usage.reads.erase read },
        match outcome with
        | .ok value => if (usage.shelf.putIfCurrent key value epoch now).2 then some (.store key value) else none
        | .error _ => none)
    | _ => (usage, none)

/-- What a step adds to the ledger. -/
def entries {ε : Type} (usage : Usage κ α) (now : Instant) (use : Use κ α ε) : Ledger κ α :=
  let (next, act?) := usage.step now use
  (act?.map fun act => { act, now, before := usage.shelf.keys, after := next.shelf.keys }).toList

/-- The ledgers of all that may be done with a shelf that is empty at first, with what it comes to. -/
inductive Runs (capacity : Nat) (ttl : Option Span) (hpos : 0 < capacity) : Ledger κ α → Usage κ α → Prop
  | begin : Runs capacity ttl hpos [] { shelf := .create capacity ttl hpos }
  | step {ledger : Ledger κ α} {usage : Usage κ α} (hruns : Runs capacity ttl hpos ledger usage) (now : Instant)
      {ε : Type} (use : Use κ α ε) :
      Runs capacity ttl hpos (ledger ++ usage.entries now use) (usage.step now use).1

end Usage

namespace Shelf

variable {shelf next : Shelf κ α} {key : κ} {now : Instant}

/-- What an act, or none, makes of a shelf. The gates are beside the point. -/
inductive Change (now : Instant) (shelf : Shelf κ α) : Option (Act κ α) → Shelf κ α → Prop
  | none (gates : Gates κ) : Change now shelf none { shelf with gates }
  | store (key : κ) (value : α) (gates : Gates κ) :
      Change now shelf (some (.store key value)) { shelf.put key value now with gates }
  | lookUp (key : κ) (gates : Gates κ) :
      Change now shelf (some (.lookUp key (shelf.get key now).2)) { (shelf.get key now).1 with gates }
  | lookAgain (key : κ) (gates : Gates κ) : Change now shelf (some (.lookAgain key)) { shelf.touch key with gates }
  | invalidate (key : κ) : Change now shelf (some (.invalidate key)) (shelf.invalidate key)
  | clear : Change now shelf (some .clear) shelf.clear

theorem change_putIfCurrent (shelf : Shelf κ α) (key : κ) (value : α) (epoch : Nat) (now : Instant) (gates : Gates κ) :
    shelf.Change now (if (shelf.putIfCurrent key value epoch now).2 then some (.store key value) else none)
      { (shelf.putIfCurrent key value epoch now).1 with gates } := by
  unfold putIfCurrent
  split
  · exact .store key value gates
  · exact .none gates

theorem change_beginRead (shelf : Shelf κ α) (ticket : Ticket) (key : κ) (now : Instant) :
    shelf.Change now (some (Usage.lookUpOf key (shelf.beginRead ticket key true now).2))
      (shelf.beginRead ticket key true now).1 := by
  have hlookUp (gates : Gates κ) : shelf.Change now _ _ := .lookUp key gates
  rcases shelf.get_cases key now with ⟨slot, -, -, hget⟩ | ⟨-, hget⟩
  · have hread : shelf.beginRead ticket key true now = ((shelf.get key now).1, .found slot.value) := by
      simp [beginRead, hget]
    rw [hget] at hlookUp
    rw [hread, hget]
    exact hlookUp _
  · let asked : Shelf κ α := { shelf.missed key with gates := shelf.gates.ask key ticket }
    have hread : shelf.beginRead ticket key true now = asked.passGate ticket key now := by
      simp only [beginRead, Bool.not_true, Bool.false_eq_true, if_false, hget]
      rfl
    have hslot : asked.slot? key = none := shelf.slot?_missed key
    rw [hget] at hlookUp
    rw [hread]
    rcases asked.passGate_cases ticket key now with ⟨value, hfound, -⟩ | hpass | ⟨-, hpass⟩
    · -- What has been missed is not there a moment later.
      rw [lookAgain_of_isAbsent (isAbsent_of_slot? hslot)] at hfound
      cases hfound
    · rw [hpass, touch_of_slot? hslot]
      exact hlookUp _
    · rw [hpass]
      exact hlookUp _

theorem change_resumeRead (shelf : Shelf κ α) (ticket : Ticket) (key : κ) (now : Instant) :
    shelf.Change now (Usage.lookAgainOf? key (shelf.resumeRead ticket key now).2)
      (shelf.resumeRead ticket key now).1 := by
  let inside : Shelf κ α := { shelf with gates := shelf.gates.enter key ticket }
  have htouch : inside.touch key = { shelf.touch key with gates := inside.gates } := shelf.touch_gates _ key
  change shelf.Change now (Usage.lookAgainOf? key (inside.passGate ticket key now).2) (inside.passGate ticket key now).1
  rcases inside.passGate_cases ticket key now with ⟨value, -, hpass⟩ | hpass | ⟨-, hpass⟩
  · rw [hpass, htouch]
    exact .lookAgain key _
  · rw [hpass, htouch]
    exact .lookAgain key _
  · rw [hpass]
    exact .none _

theorem change_finishRead {ε : Type} (shelf : Shelf κ α) (ticket : Ticket) (key : κ) (epoch : Nat) (gated : Bool)
    (value : α) (now : Instant) :
    shelf.Change now (if (shelf.putIfCurrent key value epoch now).2 then some (.store key value) else none)
      (shelf.finishRead ticket key epoch gated (.ok value : Except ε α) now) := by
  cases gated with
  | true => exact shelf.change_putIfCurrent key value epoch now _
  | false => exact shelf.change_putIfCurrent key value epoch now _

end Shelf

/-- Whatever is done with a shelf changes it by the act that it is told to be. -/
theorem Usage.change_step {ε : Type} (usage : Usage κ α) (now : Instant) (use : Use κ α ε) :
    usage.shelf.Change now (usage.step now use).2 (usage.step now use).1.shelf := by
  cases use with
  | put key value => exact .store key value _
  | putIfCurrent key value epoch => exact usage.shelf.change_putIfCurrent key value epoch now _
  | get key => exact .lookUp key _
  | invalidate key => exact .invalidate key
  | clear => exact .clear
  | start key useCache =>
    cases useCache with
    | true => exact usage.shelf.change_beginRead usage.started key now
    | false => exact .none _
  | resume read =>
    simp only [step]
    split
    · next key _ => exact usage.shelf.change_resumeRead read key now
    · exact .none _
  | finish read outcome =>
    simp only [step]
    split
    · next key epoch gated _ =>
      cases outcome with
      | ok value => exact usage.shelf.change_finishRead (ε := ε) read key epoch gated value now
      | error _ => cases gated <;> exact .none _
    · exact .none _

namespace Shelf

/-- The shelf is as the ledger says. -/
structure Follows (capacity : Nat) (ttl : Option Span) (ledger : Ledger κ α) (shelf : Shelf κ α) : Prop where
  capacity_eq : shelf.capacity = capacity
  ttl_eq : shelf.ttl = ttl
  mem_slots_iff : ∀ slot, slot ∈ shelf.slots ↔ IsLastStore ledger slot.key slot.value slot.storedAt
  recent : shelf.slots.Pairwise fun newer older => UsedSince ledger older.key newer.key
  evictions : ∀ front entry back, ledger = front ++ entry :: back → entry.EvictsLeastRecent capacity front
  arrivals : ledger.countP Entry.isArrival = shelf.size + shelf.tally.evictions + (ledger.flatMap Entry.removed).length
  hits : shelf.tally.hits = ledger.countP (·.act.isHit)
  misses : shelf.tally.misses = ledger.countP (·.act.isMiss)

variable {capacity : Nat} {ttl : Option Span} {ledger : Ledger κ α} {shelf next : Shelf κ α} {key : κ}

theorem follows_create (hpos : 0 < capacity) :
    (create capacity ttl hpos : Shelf κ α).Follows capacity ttl [] where
  capacity_eq := rfl
  ttl_eq := rfl
  mem_slots_iff slot := by
    refine iff_of_false nofun ?_
    rintro ⟨front, entry, back, hsplit, -⟩
    simp at hsplit
  recent := .nil
  evictions front entry back hsplit := by simp at hsplit
  arrivals := rfl
  hits := rfl
  misses := rfl

omit [DecidableEq κ] in
theorem mem_keys_of_mem {slot : Slot κ α} (hslot : slot ∈ shelf.slots) : slot.key ∈ shelf.keys :=
  List.mem_map_of_mem hslot

omit [DecidableEq κ] in
/-- A slot that is there stands where its key does. -/
theorem eq_of_key_eq {slot other : Slot κ α} (hslot : slot ∈ shelf.slots) (hother : other ∈ shelf.slots)
    (hkey : slot.key = other.key) : slot = other :=
  List.inj_on_of_nodup_map shelf.nodup_keys hslot hother hkey

/-- The other slots keep their order, whatever is done with the key. -/
theorem Follows.recent_others (hfollows : shelf.Follows capacity ttl ledger) (act : Act κ α)
    (hact : ∀ other, act.Uses other → other = key) :
    (shelf.others key).Pairwise fun newer older =>
      act.Uses newer.key ∨ UsedSince ledger older.key newer.key ∧ ¬ act.Uses older.key := by
  refine (hfollows.recent.sublist List.filter_sublist).imp_of_mem fun _ holder hused => .inr ⟨hused, fun huses => ?_⟩
  exact (mem_others.1 holder).2 (hact _ huses)

/-- An act of which the slots and the counts tell what it should goes into the ledger. -/
theorem Follows.concat_preserves_follows (hfollows : shelf.Follows capacity ttl ledger) {new : Entry κ α}
    (hcapacity : next.capacity = shelf.capacity) (httl : next.ttl = shelf.ttl)
    (hmem : ∀ slot, slot ∈ next.slots ↔ new.act = .store slot.key slot.value ∧ new.now = slot.storedAt ∨
      slot ∈ shelf.slots ∧ (∀ value, new.act ≠ .store slot.key value) ∧ ¬ new.Removes slot.key)
    (hrecent : next.slots.Pairwise fun newer older =>
      new.act.Uses newer.key ∨ UsedSince ledger older.key newer.key ∧ ¬ new.act.Uses older.key)
    (hevicts : new.EvictsLeastRecent capacity ledger)
    (harrivals : shelf.size + shelf.tally.evictions + (if new.isArrival then 1 else 0) =
      next.size + next.tally.evictions + new.removed.length)
    (hhits : next.tally.hits = shelf.tally.hits + if new.act.isHit then 1 else 0)
    (hmisses : next.tally.misses = shelf.tally.misses + if new.act.isMiss then 1 else 0) :
    next.Follows capacity ttl (ledger ++ [new]) where
  capacity_eq := hcapacity.trans hfollows.capacity_eq
  ttl_eq := httl.trans hfollows.ttl_eq
  mem_slots_iff slot := by rw [hmem, isLastStore_concat_iff, hfollows.mem_slots_iff]
  recent := hrecent.imp fun h => usedSince_concat_iff.2 h
  evictions front entry back hsplit := by
    rcases List.eq_nil_or_concat back with rfl | ⟨back, last, rfl⟩
    · obtain ⟨rfl, hlast⟩ := List.append_inj' hsplit rfl
      obtain ⟨rfl, -⟩ := List.cons.inj hlast
      exact hevicts
    · rw [List.concat_eq_append, ← List.cons_append, ← List.append_assoc] at hsplit
      exact hfollows.evictions front entry back (List.append_inj' hsplit rfl).1
  arrivals := by
    have harrivalsBefore := hfollows.arrivals
    rw [List.countP_append, List.countP_singleton, List.flatMap_append, List.flatMap_singleton, List.length_append]
    omega
  hits := by rw [hhits, hfollows.hits, List.countP_append, List.countP_singleton]
  misses := by rw [hmisses, hfollows.misses, List.countP_append, List.countP_singleton]

/-- Only a store brings a value or makes room for one. Any other act takes slots away, or none. -/
theorem Follows.concat_preserves_follows_of_not_store (hfollows : shelf.Follows capacity ttl ledger) (act : Act κ α)
    (next : Shelf κ α) (now : Instant) (hact : ∀ key value, act ≠ .store key value)
    (hcapacity : next.capacity = shelf.capacity) (httl : next.ttl = shelf.ttl) (hsubset : next.slots ⊆ shelf.slots)
    (hgone : ∀ slot ∈ shelf.slots, slot ∉ next.slots →
      act = .invalidate slot.key ∨ act = .clear ∨ ∃ found, act = .lookUp slot.key found)
    (hstays : ∀ slot ∈ next.slots, act ≠ .invalidate slot.key ∧ act ≠ .clear)
    (hrecent : next.slots.Pairwise fun newer older =>
      act.Uses newer.key ∨ UsedSince ledger older.key newer.key ∧ ¬ act.Uses older.key)
    (hevictions : next.tally.evictions = shelf.tally.evictions)
    (hhits : next.tally.hits = shelf.tally.hits + if act.isHit then 1 else 0)
    (hmisses : next.tally.misses = shelf.tally.misses + if act.isMiss then 1 else 0) :
    next.Follows capacity ttl (ledger ++ [{ act, now, before := shelf.keys, after := next.keys }]) := by
  let new : Entry κ α := { act, now, before := shelf.keys, after := next.keys }
  have hlost {slot : Slot κ α} (hslot : slot ∈ shelf.slots) : slot.key ∈ new.lost ↔ slot ∉ next.slots := by
    rw [Entry.mem_lost_iff, and_iff_right (mem_keys_of_mem hslot)]
    refine not_congr ⟨fun hkey => ?_, mem_keys_of_mem⟩
    obtain ⟨other, hother, hkey⟩ := List.mem_map.1 hkey
    rwa [← eq_of_key_eq (hsubset hother) hslot hkey]
  refine hfollows.concat_preserves_follows hcapacity httl (fun slot => ?_) hrecent
    (fun key value hstore => absurd hstore (hact key value)) ?_ hhits hmisses
  · constructor
    · intro hslot
      refine .inr ⟨hsubset hslot, hact _, fun hremoves => ?_⟩
      have hkept : slot.key ∉ new.lost := fun hkey => (hlost (hsubset hslot)).1 hkey hslot
      cases hremoves with
      | invalidated hinvalidate => exact (hstays slot hslot).1 hinvalidate
      | cleared hclear => exact (hstays slot hslot).2 hclear
      | evicted hevicts => exact hkept hevicts.2
      | expired _ hgone => exact hkept hgone
    · rintro (⟨hstore, -⟩ | ⟨hslot, -, hremoves⟩)
      · exact absurd hstore (hact _ _)
      · refine Classical.byContradiction fun hnot => hremoves ?_
        rcases hgone slot hslot hnot with hinvalidate | hclear | ⟨found, hlookUp⟩
        · exact .invalidated hinvalidate
        · exact .cleared hclear
        · exact .expired hlookUp ((hlost hslot).2 hnot)
  · have hlength : new.lost.length + next.keys.length = shelf.keys.length :=
      Entry.length_lost_add shelf.nodup_keys next.nodup_keys (List.map_subset _ hsubset)
    have hremoved : new.removed = new.lost := by
      cases act with
      | store key value => exact absurd rfl (hact key value)
      | _ => rfl
    have harrival : new.isArrival = false := by
      cases act with
      | store key value => exact absurd rfl (hact key value)
      | _ => rfl
    rw [keys, keys, List.length_map, List.length_map] at hlength
    rw [harrival, hremoved, hevictions, size, size]
    simp only [Bool.false_eq_true, if_false]
    omega

/-- A slot goes to the front when its key is used, which takes nothing away. -/
theorem Follows.touch_preserves_follows (hfollows : shelf.Follows capacity ttl ledger) (act : Act κ α) (now : Instant)
    (hact : act.Uses key) (hstore : ∀ key value, act ≠ .store key value) {slot : Slot κ α}
    (hslot : shelf.slot? key = some slot)
    (hslots : next.slots = slot :: shelf.others key) (hcapacity : next.capacity = shelf.capacity)
    (httl : next.ttl = shelf.ttl) (hevictions : next.tally.evictions = shelf.tally.evictions)
    (hhits : next.tally.hits = shelf.tally.hits + if act.isHit then 1 else 0)
    (hmisses : next.tally.misses = shelf.tally.misses + if act.isMiss then 1 else 0) :
    next.Follows capacity ttl (ledger ++ [{ act, now, before := shelf.keys, after := next.keys }]) := by
  have hmem (other : Slot κ α) : other ∈ next.slots ↔ other ∈ shelf.slots := by
    rw [hslots, List.mem_cons, mem_slots_iff_of_slot? hslot]
  refine hfollows.concat_preserves_follows_of_not_store act next now hstore hcapacity httl
    (fun other hother => (hmem other).1 hother)
    (fun other hother hgone => absurd ((hmem other).2 hother) hgone) (fun other _ => ?_) ?_ hevictions hhits hmisses
  · constructor <;> (rintro rfl; exact hact)
  · rw [hslots, List.pairwise_cons]
    refine ⟨fun _ _ => .inl ?_, hfollows.recent_others act fun other hother => hother.unique hact⟩
    rwa [(mem_slots_of_slot? hslot).2]

theorem Follows.lookUp_preserves_follows (hfollows : shelf.Follows capacity ttl ledger) (key : κ) (now : Instant) :
    (shelf.get key now).1.Follows capacity ttl (ledger ++
      [{ act := .lookUp key (shelf.get key now).2, now, before := shelf.keys
         after := (shelf.get key now).1.keys }]) := by
  rcases shelf.get_cases key now with ⟨slot, hslot, -, hget⟩ | ⟨-, hget⟩
  · rw [hget]
    exact hfollows.touch_preserves_follows (.lookUp key (some slot.value)) now rfl nofun hslot (slots_touch hslot)
      (shelf.capacity_touch key) (shelf.ttl_touch key) rfl rfl rfl
  · rw [hget]
    refine hfollows.concat_preserves_follows_of_not_store (.lookUp key none) (shelf.missed key) now nofun rfl rfl
      (fun slot hslot => (mem_others.1 hslot).1) (fun slot hslot hgone => .inr (.inr ⟨none, ?_⟩))
      (fun slot _ => ⟨nofun, nofun⟩) (hfollows.recent_others _ fun other hother => hother.symm) rfl rfl rfl
    have hkey : slot.key = key := Classical.byContradiction fun hne => hgone (mem_others.2 ⟨hslot, hne⟩)
    rw [hkey]

theorem Follows.lookAgain_preserves_follows (hfollows : shelf.Follows capacity ttl ledger) (key : κ) (now : Instant) :
    (shelf.touch key).Follows capacity ttl
      (ledger ++ [{ act := .lookAgain key, now, before := shelf.keys, after := (shelf.touch key).keys }]) := by
  cases hslot : shelf.slot? key with
  | some slot =>
    have htally := shelf.tally_touch key
    exact hfollows.touch_preserves_follows (.lookAgain key) now rfl nofun hslot (slots_touch hslot)
      (shelf.capacity_touch key) (shelf.ttl_touch key) (congrArg Tally.evictions htally) (congrArg Tally.hits htally)
      (congrArg Tally.misses htally)
  | none =>
    -- A key that is not there has no slot to be touched.
    have hothers := hfollows.recent_others (.lookAgain key) fun other hother => hother.symm
    rw [others_of_slot? hslot] at hothers
    rw [touch_of_slot? hslot]
    exact hfollows.concat_preserves_follows_of_not_store (.lookAgain key) shelf now nofun rfl rfl (List.Subset.refl _)
      (fun _ hmem hgone => absurd hmem hgone) (fun _ _ => ⟨nofun, nofun⟩) hothers rfl rfl rfl

theorem Follows.invalidate_preserves_follows (hfollows : shelf.Follows capacity ttl ledger) (key : κ) (now : Instant) :
    (shelf.invalidate key).Follows capacity ttl
      (ledger ++ [{ act := .invalidate key, now, before := shelf.keys, after := (shelf.invalidate key).keys }]) := by
  refine hfollows.concat_preserves_follows_of_not_store (.invalidate key) (shelf.invalidate key) now nofun rfl rfl
    (fun slot hslot => (mem_others.1 hslot).1) (fun slot hslot hgone => .inl ?_) (fun slot hslot => ⟨?_, nofun⟩)
    (hfollows.recent_others _ fun _ hother => hother.elim) rfl rfl rfl
  · have hkey : slot.key = key := Classical.byContradiction fun hne => hgone (mem_others.2 ⟨hslot, hne⟩)
    rw [hkey]
  · intro hact
    cases hact
    exact (mem_others.1 hslot).2 rfl

theorem Follows.clear_preserves_follows (hfollows : shelf.Follows capacity ttl ledger) (now : Instant) :
    shelf.clear.Follows capacity ttl
      (ledger ++ [{ act := .clear, now, before := shelf.keys, after := shelf.clear.keys }]) :=
  hfollows.concat_preserves_follows_of_not_store .clear shelf.clear now nofun rfl rfl (List.nil_subset _)
    (fun _ _ _ => .inr (.inl rfl)) (fun _ hslot => nomatch hslot) .nil rfl rfl rfl

theorem mem_keys_iff : key ∈ shelf.keys ↔ ∃ slot, shelf.slot? key = some slot := by
  constructor
  · intro hkey
    obtain ⟨slot, hslot, rfl⟩ := List.mem_map.1 hkey
    exact Option.isSome_iff_exists.1 (List.find?_isSome.2 ⟨slot, hslot, by simp⟩)
  · rintro ⟨slot, hslot⟩
    obtain ⟨hmem, rfl⟩ := mem_slots_of_slot? hslot
    exact mem_keys_of_mem hmem

theorem length_others (shelf : Shelf κ α) (key : κ) :
    (shelf.others key).length + (if key ∈ shelf.keys then 1 else 0) = shelf.slots.length := by
  cases hslot : shelf.slot? key with
  | none =>
    have habsent : key ∉ shelf.keys := mt mem_keys_iff.1 (by simp [hslot])
    rw [others_of_slot? hslot, if_neg habsent, Nat.add_zero]
  | some slot =>
    rw [if_pos (mem_keys_iff.2 ⟨slot, hslot⟩)]
    have hnodup : (slot :: shelf.others key).Nodup := by
      refine List.nodup_cons.2 ⟨fun hother => (mem_others.1 hother).2 (mem_slots_of_slot? hslot).2, ?_⟩
      exact shelf.nodup_keys.of_map.filter _
    have hperm := (List.perm_ext_iff_of_nodup shelf.nodup_keys.of_map hnodup).2 fun other => by
      rw [mem_slots_iff_of_slot? hslot, List.mem_cons]
    exact hperm.length_eq.symm

/-- A value that is stored goes to the front. If its key is new and the shelf is full, the slot at the end makes
room for it. -/
theorem put_cases (shelf : Shelf κ α) (key : κ) (value : α) (now : Instant) :
    (¬ (key ∉ shelf.keys ∧ shelf.keys.length = shelf.capacity) ∧
      (shelf.put key value now).slots = { key, value, storedAt := now } :: shelf.others key ∧
      (shelf.put key value now).tally = shelf.tally) ∨
    (key ∉ shelf.keys ∧ shelf.keys.length = shelf.capacity) ∧ ∃ init last, shelf.slots = init ++ [last] ∧
      (shelf.put key value now).slots = { key, value, storedAt := now } :: init ∧
      (shelf.put key value now).tally = { shelf.tally with evictions := shelf.tally.evictions + 1 } := by
  have hlength := shelf.length_others key
  have hle := shelf.length_le
  have hkeys : shelf.keys.length = shelf.slots.length := List.length_map _
  unfold put
  dsimp only
  split
  · next hroom =>
    refine .inl ⟨?_, rfl, rfl⟩
    rintro ⟨habsent, hfull⟩
    rw [if_neg habsent] at hlength
    omega
  · next hfull =>
    have habsent : key ∉ shelf.keys := fun hkey => by
      rw [if_pos hkey] at hlength
      omega
    rw [if_neg habsent] at hlength
    have hslot : shelf.slot? key = none :=
      Option.eq_none_iff_forall_ne_some.2 fun slot hslot => habsent (mem_keys_iff.2 ⟨slot, hslot⟩)
    refine .inr ⟨⟨habsent, by omega⟩, ?_⟩
    rcases List.eq_nil_or_concat shelf.slots with hnil | ⟨init, last, hconcat⟩
    · have hpos := shelf.capacity_pos
      rw [hnil, List.length_nil] at hlength hkeys
      omega
    · rw [List.concat_eq_append] at hconcat
      exact ⟨init, last, hconcat, by simp [others_of_slot? hslot, hconcat], rfl⟩

/-- The slot at the end is the one that has not been used for the longest time. -/
theorem Follows.isLeastRecent_iff (hfollows : shelf.Follows capacity ttl ledger) {init : List (Slot κ α)}
    {last : Slot κ α} (hslots : shelf.slots = init ++ [last]) :
    IsLeastRecent ledger shelf.keys key ↔ key = last.key := by
  have hrecent := hfollows.recent
  have hlast : last ∈ shelf.slots := by simp [hslots]
  rw [hslots, List.pairwise_append] at hrecent
  have hbehind (other : κ) (hother : other ∈ shelf.keys) (hne : other ≠ last.key) :
      UsedSince ledger last.key other := by
    obtain ⟨slot, hslot, rfl⟩ := List.mem_map.1 hother
    rw [hslots, List.mem_append, List.mem_singleton] at hslot
    rcases hslot with hinit | rfl
    · exact hrecent.2.2 slot hinit last (List.mem_singleton_self last)
    · exact absurd rfl hne
  constructor
  · rintro ⟨hkey, hleast⟩
    refine Classical.byContradiction fun hne => ?_
    exact (hleast last.key (mem_keys_of_mem hlast) (Ne.symm hne)).asymm hne (hbehind key hkey hne)
  · rintro rfl
    exact ⟨mem_keys_of_mem hlast, hbehind⟩

/-- Of the slots that were there those of other keys stay that are not lost. -/
private theorem mem_slots_store_iff {value : α} {now : Instant} {rest : List (Slot κ α)}
    (hslots : next.slots = { key, value, storedAt := now } :: rest) (hrest : rest ⊆ shelf.others key)
    (slot : Slot κ α) :
    let new : Entry κ α := { act := .store key value, now, before := shelf.keys, after := next.keys }
    slot ∈ next.slots ↔ new.act = .store slot.key slot.value ∧ new.now = slot.storedAt ∨
      slot ∈ shelf.slots ∧ (∀ value, new.act ≠ .store slot.key value) ∧ ¬ new.Removes slot.key := by
  intro new
  have hother {slot : Slot κ α} (hslot : slot ∈ rest) := mem_others.1 (hrest hslot)
  rw [hslots, List.mem_cons]
  constructor
  · rintro (rfl | hslot)
    · exact .inl ⟨rfl, rfl⟩
    · refine .inr ⟨(hother hslot).1, fun _ hstore => (hother hslot).2 (Act.store.inj hstore).1.symm, fun hremoves => ?_⟩
      have hkept : slot.key ∈ next.keys := mem_keys_of_mem (by simp [hslots, hslot])
      cases hremoves with
      | invalidated hact | cleared hact | expired hact => cases hact
      | evicted hevicts => exact (Entry.mem_lost_iff.1 hevicts.2).2 hkept
  · rintro (⟨hstore, rfl⟩ | ⟨hslot, hstore, hremoves⟩)
    · cases slot
      cases hstore
      exact .inl rfl
    · have hne : slot.key ≠ key := fun hkey => hstore value (by rw [hkey])
      have hkept : slot.key ∈ next.keys := Classical.byContradiction fun hlost =>
        hremoves (.evicted ⟨⟨key, value, rfl⟩, Entry.mem_lost_iff.2 ⟨mem_keys_of_mem hslot, hlost⟩⟩)
      obtain ⟨kept, hkept, hkey⟩ := List.mem_map.1 hkept
      rw [hslots, List.mem_cons] at hkept
      rcases hkept with rfl | hkept
      · exact absurd hkey.symm hne
      · rw [← eq_of_key_eq (hother hkept).1 hslot hkey]
        exact .inr hkept

/-- What the shelf loses by a store, if anything, is the slot at the end. -/
private theorem evictsLeastRecent_store {value : α} (hnext : key ∈ next.keys)
    (hlost : ∀ other ∈ shelf.keys, other ≠ key → (other ∉ next.keys ↔
      (key ∉ shelf.keys ∧ shelf.keys.length = capacity) ∧ IsLeastRecent ledger shelf.keys other))
    (hsome : key ∉ shelf.keys ∧ shelf.keys.length = capacity → ∃ other, IsLeastRecent ledger shelf.keys other)
    (now : Instant) :
    Entry.EvictsLeastRecent capacity ledger
      { act := .store key value, now, before := shelf.keys, after := next.keys } := by
  intro stored value hstore
  cases hstore
  have hevicts (other : κ) :
      Entry.Evicts { act := .store key value, now, before := shelf.keys, after := next.keys } other ↔
      (key ∉ shelf.keys ∧ shelf.keys.length = capacity) ∧ IsLeastRecent ledger shelf.keys other := by
    rw [Entry.Evicts, Entry.mem_lost_iff, and_iff_right ⟨key, value, rfl⟩]
    constructor
    · rintro ⟨hother, hgone⟩
      exact (hlost other hother fun hkey => hgone (hkey ▸ hnext)).1 hgone
    · rintro ⟨hfull, hleast⟩
      exact ⟨hleast.1, (hlost other hleast.1 fun hkey => hfull.1 (hkey ▸ hleast.1)).2 ⟨hfull, hleast⟩⟩
  refine ⟨⟨fun ⟨other, hother⟩ => ((hevicts other).1 hother).1, fun hfull => ?_⟩, hevicts⟩
  obtain ⟨other, hother⟩ := hsome hfull
  exact ⟨other, (hevicts other).2 ⟨hfull, hother⟩⟩

theorem Follows.store_preserves_follows (hfollows : shelf.Follows capacity ttl ledger) (key : κ) (value : α)
    (now : Instant) :
    (shelf.put key value now).Follows capacity ttl (ledger ++
      [{ act := .store key value, now, before := shelf.keys, after := (shelf.put key value now).keys }]) := by
  have hothers := hfollows.recent_others (.store key value) fun other hother => hother.symm
  have hlength := shelf.length_others key
  have hcases := shelf.put_cases key value now
  rw [hfollows.capacity_eq] at hcases
  rcases hcases with ⟨hroom, hslots, htally⟩ | ⟨hfull, init, last, hbefore, hslots, htally⟩
  · have hkeys : (shelf.put key value now).keys = key :: (shelf.others key).map Slot.key := by
      rw [keys, hslots, List.map_cons]
    refine hfollows.concat_preserves_follows (shelf.capacity_put key value now) (shelf.ttl_put key value now)
      (mem_slots_store_iff hslots (List.Subset.refl _)) ?_ (evictsLeastRecent_store (by simp [hkeys]) ?_ ?_ now) ?_
      (congrArg Tally.hits htally) (congrArg Tally.misses htally)
    · rw [hslots]
      exact List.pairwise_cons.2 ⟨fun _ _ => .inl rfl, hothers⟩
    · intro other hother hne
      obtain ⟨slot, hslot, rfl⟩ := List.mem_map.1 hother
      refine iff_of_false (not_not_intro ?_) fun hlost => hroom hlost.1
      rw [hkeys]
      exact List.mem_cons_of_mem _ (List.mem_map_of_mem (mem_others.2 ⟨hslot, hne⟩))
    · exact fun hfull => absurd hfull hroom
    · have hsize : (shelf.put key value now).size = (shelf.others key).length + 1 := by
        rw [size, hslots, List.length_cons]
      rw [hsize, htally, size]
      by_cases hkey : key ∈ shelf.keys
      · rw [if_pos hkey] at hlength
        simp only [Entry.isArrival, Entry.removed, hkey, not_true_eq_false, decide_false, Bool.false_eq_true, if_false,
          List.length_nil]
        omega
      · rw [if_neg hkey] at hlength
        simp only [Entry.isArrival, Entry.removed, hkey, not_false_eq_true, decide_true, if_true, List.length_nil]
        omega
  · have hkeys : (shelf.put key value now).keys = key :: init.map Slot.key := by rw [keys, hslots, List.map_cons]
    have hnodup := shelf.nodup_keys
    rw [hbefore, List.map_append, List.map_singleton, List.nodup_append] at hnodup
    have hslot : shelf.others key = shelf.slots := others_of_slot? <|
      Option.eq_none_iff_forall_ne_some.2 fun slot hslot => hfull.1 (mem_keys_iff.2 ⟨slot, hslot⟩)
    rw [hslot] at hothers
    have hinit : init.Sublist shelf.slots := by
      rw [hbefore]
      exact List.sublist_append_left init [last]
    refine hfollows.concat_preserves_follows (shelf.capacity_put key value now) (shelf.ttl_put key value now)
      (mem_slots_store_iff hslots (by rw [hslot]; exact hinit.subset)) ?_
      (evictsLeastRecent_store (by simp [hkeys]) ?_ ?_ now) ?_ (by rw [htally]; rfl) (by rw [htally]; rfl)
    · rw [hslots]
      exact List.pairwise_cons.2 ⟨fun _ _ => .inl rfl, hothers.sublist hinit⟩
    · intro other hother hne
      rw [and_iff_right hfull, hfollows.isLeastRecent_iff hbefore, hkeys, List.mem_cons, or_iff_right hne]
      have hmem : other ∈ init.map Slot.key ∨ other = last.key := by simpa [keys, hbefore] using hother
      constructor
      · exact hmem.resolve_left
      · rintro rfl hinside
        exact hnodup.2.2 _ hinside _ (List.mem_singleton_self _) rfl
    · exact fun _ => ⟨last.key, (hfollows.isLeastRecent_iff hbefore).2 rfl⟩
    · have hsize : (shelf.put key value now).size = init.length + 1 := by rw [size, hslots, List.length_cons]
      rw [hsize, htally, size, hbefore, List.length_append, List.length_singleton]
      simp only [Entry.isArrival, Entry.removed, hfull.1, not_false_eq_true, decide_true, if_true, List.length_nil]
      omega

theorem Follows.change_preserves_follows (hfollows : shelf.Follows capacity ttl ledger) {now : Instant}
    {act? : Option (Act κ α)} (hchange : shelf.Change now act? next) :
    next.Follows capacity ttl
      (ledger ++ (act?.map fun act => { act, now, before := shelf.keys, after := next.keys }).toList) := by
  -- Nothing that is said of the shelf is about its gates.
  have hgates {ledger : Ledger κ α} {shelf : Shelf κ α} (hfollows : shelf.Follows capacity ttl ledger)
      (gates : Gates κ) : Follows capacity ttl ledger { shelf with gates } :=
    ⟨hfollows.1, hfollows.2, hfollows.3, hfollows.4, hfollows.5, hfollows.6, hfollows.7, hfollows.8⟩
  cases hchange with
  | none gates =>
    rw [Option.map_none, Option.toList_none, List.append_nil]
    exact hgates hfollows gates
  | store key value gates => exact hgates (hfollows.store_preserves_follows key value now) gates
  | lookUp key gates => exact hgates (hfollows.lookUp_preserves_follows key now) gates
  | lookAgain key gates => exact hgates (hfollows.lookAgain_preserves_follows key now) gates
  | invalidate key => exact hfollows.invalidate_preserves_follows key now
  | clear => exact hfollows.clear_preserves_follows now

omit [DecidableEq κ] in
theorem isFresh_iff {slot : Slot κ α} {now : Instant} :
    shelf.isFresh now slot = true ↔ ∀ span, shelf.ttl = some span → now < slot.storedAt.after span := by
  simp [isFresh, Option.all_eq_true]

/-- A lookup finds the value that was stored last, if it has not gone and is not too old. -/
theorem Follows.get_eq_some_iff (hfollows : shelf.Follows capacity ttl ledger) {now : Instant} {value : α} :
    (shelf.get key now).2 = some value ↔ ∃ storedAt, IsLastStore ledger key value storedAt ∧
      ∀ span, ttl = some span → now < storedAt.after span := by
  have hfresh (slot : Slot κ α) : shelf.isFresh now slot = true ↔ _ := isFresh_iff
  rw [hfollows.ttl_eq] at hfresh
  constructor
  · intro hfound
    rcases shelf.get_cases key now with ⟨slot, hslot, hnew, hget⟩ | ⟨-, hget⟩
    · rw [hget] at hfound
      cases hfound
      obtain ⟨hmem, rfl⟩ := mem_slots_of_slot? hslot
      exact ⟨slot.storedAt, (hfollows.mem_slots_iff slot).1 hmem, (hfresh slot).1 hnew⟩
    · rw [hget] at hfound
      cases hfound
  · rintro ⟨storedAt, hstore, hnew⟩
    have hmem : ({ key, value, storedAt } : Slot κ α) ∈ shelf.slots := (hfollows.mem_slots_iff _).2 hstore
    obtain ⟨slot, hslot⟩ := mem_keys_iff.1 (mem_keys_of_mem hmem)
    obtain rfl := eq_of_key_eq (mem_slots_of_slot? hslot).1 hmem (mem_slots_of_slot? hslot).2
    rcases shelf.get_cases key now with ⟨other, hother, -, hget⟩ | ⟨habsent, -⟩
    · cases hother.symm.trans hslot
      rw [hget]
    · have hold := habsent _ hslot
      rw [(hfresh _).2 hnew] at hold
      cases hold

/-- A lookup takes its own key off the shelf, and that only if the value has become too old. -/
theorem Follows.lost_get_iff (hfollows : shelf.Follows capacity ttl ledger) {now : Instant} {other : κ} :
    other ∈ shelf.keys ∧ other ∉ (shelf.get key now).1.keys ↔ other = key ∧ ∃ value storedAt span,
      IsLastStore ledger key value storedAt ∧ ttl = some span ∧ storedAt.after span ≤ now := by
  rcases shelf.get_cases key now with ⟨slot, hslot, hnew, hget⟩ | ⟨habsent, hget⟩
  · have hkeys : shelf.keys ⊆ (shelf.get key now).1.keys := by
      rw [hget]
      refine List.map_subset _ fun other hother => ?_
      rw [slots_touch hslot, List.mem_cons]
      exact (mem_slots_iff_of_slot? hslot).1 hother
    refine iff_of_false (fun ⟨hbefore, hafter⟩ => hafter (hkeys hbefore)) ?_
    rintro ⟨rfl, value, storedAt, span, hstore, httl, hold⟩
    obtain rfl := eq_of_key_eq (mem_slots_of_slot? hslot).1 ((hfollows.mem_slots_iff ⟨other, value, storedAt⟩).2 hstore)
      (mem_slots_of_slot? hslot).2
    exact Instant.not_lt.2 hold (isFresh_iff.1 hnew span (hfollows.ttl_eq.trans httl))
  · have hkeys : (shelf.get key now).1.keys = (shelf.others key).map Slot.key := by
      rw [hget]
      rfl
    rw [hkeys]
    constructor
    · rintro ⟨hbefore, hafter⟩
      obtain ⟨slot, hslot, rfl⟩ := List.mem_map.1 hbefore
      have hkey : slot.key = key := Classical.byContradiction fun hne =>
        hafter (List.mem_map_of_mem (mem_others.2 ⟨hslot, hne⟩))
      subst hkey
      obtain ⟨found, hfound⟩ := mem_keys_iff.1 hbefore
      obtain rfl := eq_of_key_eq (mem_slots_of_slot? hfound).1 hslot (mem_slots_of_slot? hfound).2
      have hold := mt isFresh_iff.2 (Bool.eq_false_iff.1 (habsent _ hfound))
      simp only [not_forall, Instant.not_lt, exists_prop] at hold
      obtain ⟨span, httl, hold⟩ := hold
      exact ⟨rfl, _, _, span, (hfollows.mem_slots_iff _).1 hslot, hfollows.ttl_eq.symm.trans httl, hold⟩
    · rintro ⟨rfl, value, storedAt, span, hstore, -, -⟩
      exact ⟨mem_keys_of_mem ((hfollows.mem_slots_iff ⟨other, value, storedAt⟩).2 hstore), shelf.not_mem_others other⟩

end Shelf

theorem Usage.Runs.follows {capacity : Nat} {ttl : Option Span} {hpos : 0 < capacity} {ledger : Ledger κ α}
    {usage : Usage κ α} (hruns : Runs capacity ttl hpos ledger usage) : usage.shelf.Follows capacity ttl ledger := by
  induction hruns with
  | begin => exact Shelf.follows_create hpos
  | step _ now use ih => exact ih.change_preserves_follows (change_step _ now use)

/-- What a shelf holds, and what its counts count, whatever is done with it in whatever order. It never holds more
keys than it has room for, and none twice. A lookup finds the value that was stored last, if its key has not been
dropped, evicted or taken away as too old since, and it is not too old itself; what is too old is taken away. A
store evicts a key exactly if its own is new and the shelf is full, and then the one that has not been stored or
looked up for the longest time. New keys are accounted for by those that are there, were evicted, or have gone
otherwise, and every lookup that counts is a hit or a miss. -/
theorem Usage.Runs.holds_and_counts {capacity : Nat} {ttl : Option Span} {hpos : 0 < capacity} {ledger : Ledger κ α}
    {usage : Usage κ α} (hruns : Runs capacity ttl hpos ledger usage) :
    (usage.shelf.keys.length ≤ capacity ∧ usage.shelf.keys.Nodup) ∧
    (∀ key now value, (usage.shelf.get key now).2 = some value ↔ ∃ storedAt,
      IsLastStore ledger key value storedAt ∧ ∀ span, ttl = some span → now < storedAt.after span) ∧
    (∀ key now other, other ∈ usage.shelf.keys ∧ other ∉ (usage.shelf.get key now).1.keys ↔ other = key ∧
      ∃ value storedAt span, IsLastStore ledger key value storedAt ∧ ttl = some span ∧ storedAt.after span ≤ now) ∧
    (∀ front entry back, ledger = front ++ entry :: back → entry.EvictsLeastRecent capacity front) ∧
    ledger.countP Entry.isArrival =
      usage.shelf.keys.length + usage.shelf.tally.evictions + (ledger.flatMap Entry.removed).length ∧
    (usage.shelf.tally.hits = ledger.countP (·.act.isHit) ∧ usage.shelf.tally.misses = ledger.countP (·.act.isMiss)) ∧
    ∀ key now, (usage.shelf.get key now).1.tally = if (usage.shelf.get key now).2.isSome
      then { usage.shelf.tally with hits := usage.shelf.tally.hits + 1 }
      else { usage.shelf.tally with misses := usage.shelf.tally.misses + 1 } := by
  have hfollows := hruns.follows
  have hlength : usage.shelf.keys.length = usage.shelf.size := List.length_map _
  refine ⟨⟨?_, usage.shelf.nodup_keys⟩, fun _ _ _ => hfollows.get_eq_some_iff, fun _ _ _ => hfollows.lost_get_iff,
    hfollows.evictions, ?_, ⟨hfollows.hits, hfollows.misses⟩, usage.shelf.tally_get⟩
  · rw [hlength, ← hfollows.capacity_eq]
    exact usage.shelf.length_le
  · rw [hlength]
    exact hfollows.arrivals

/-- Room for two keys and a span of ten. Two keys are stored, the first is looked up, so that a third evicts the
second; the second is read again and evicts the first, and the third is found to be too old. -/
theorem holds_one_of_four_keys :
    ∃ (ledger : Ledger Nat Nat) (usage : Usage Nat Nat), Usage.Runs 2 (some ⟨10⟩) Nat.two_pos ledger usage ∧
      ledger.map Entry.after = [[1], [2, 1], [1, 2], [3, 1], [3, 1], [2, 3], [2]] ∧
      ledger.countP Entry.isArrival = 4 ∧
      4 = usage.shelf.keys.length + usage.shelf.tally.evictions + (ledger.flatMap Entry.removed).length ∧
      usage.shelf.tally.evictions = 2 ∧ usage.shelf.tally.hits = 1 ∧ usage.shelf.tally.misses = 2 ∧
      ∃ storedAt, IsLastStore ledger 2 200 storedAt ∧
        ∀ span, some ⟨10⟩ = some span → ⟨14⟩ < storedAt.after span := by
  have hruns : ∃ ledger usage, Usage.Runs 2 (some ⟨10⟩) Nat.two_pos ledger usage ∧
      ledger.map Entry.after = [[1], [2, 1], [1, 2], [3, 1], [3, 1], [2, 3], [2]] ∧
      ledger.countP Entry.isArrival = 4 ∧
      usage.shelf.tally.evictions = 2 ∧ usage.shelf.tally.hits = 1 ∧ usage.shelf.tally.misses = 2 ∧
      (usage.shelf.get 2 ⟨14⟩).2 = some 200 := by
    have hbegin : Usage.Runs (κ := Nat) (α := Nat) 2 (some ⟨10⟩) Nat.two_pos [] _ := .begin
    have hfirst := hbegin.step ⟨0⟩ (.put 1 100 : Use Nat Nat Unit)
    have hsecond := hfirst.step ⟨1⟩ (.put 2 200 : Use Nat Nat Unit)
    have hfound := hsecond.step ⟨2⟩ (.get 1 : Use Nat Nat Unit)
    have hthird := hfound.step ⟨3⟩ (.put 3 300 : Use Nat Nat Unit)
    have hread := (hthird.step ⟨4⟩ (.start 2 true : Use Nat Nat Unit)).step ⟨5⟩ (.finish 0 (.ok 200) : Use Nat Nat Unit)
    exact ⟨_, _, hread.step ⟨13⟩ (.get 3 : Use Nat Nat Unit), by decide, by decide, by decide, by decide, by decide,
      by decide⟩
  obtain ⟨ledger, usage, hruns, hafter, harrivals, hevictions, hhits, hmisses, hfound⟩ := hruns
  obtain ⟨-, hget, -, -, hbalance, -⟩ := hruns.holds_and_counts
  exact ⟨ledger, usage, hruns, hafter, harrivals, harrivals.symm.trans hbalance, hevictions, hhits, hmisses,
    (hget 2 ⟨14⟩ 200).1 hfound⟩

end ChatNotify.Cache
