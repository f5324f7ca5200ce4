import ChatNotify.Cache.Gates
import ChatNotify.Time.Instant
import ChatNotify.Word

namespace ChatNotify.Cache

/-- A value on a shelf. -/
structure Slot (κ α : Type) where
  key : κ
  value : α
  storedAt : Instant

/-- How often what has happened on a shelf. -/
structure Tally where
  hits : Nat := 0
  misses : Nat := 0
  /-- Values that made room for others. -/
  evictions : Nat := 0
  /-- Calls that dropped one value or all of them. -/
  invalidations : Nat := 0
  deriving Repr, DecidableEq

/-- A shelf for cached values. The most recently used value stands first; when the shelf is full,
the last one makes room for a new one. -/
structure Shelf (κ α : Type) where
  capacity : Nat
  ttl : Option Span := none
  slots : List (Slot κ α) := []
  /-- The number of calls that have dropped something; it begins anew when 64 bits are full. -/
  epoch : Nat := 0
  tally : Tally := {}
  gates : Gates κ := {}
  capacity_pos : 0 < capacity
  nodup_keys : (slots.map Slot.key).Nodup := by simp
  length_le : slots.length ≤ capacity := by simp

/-- What a step of a read comes to. Of several readers who miss the same value one fetches it while
the others wait at the gate. -/
inductive Reading (α : Type) where
  /-- The value was on the shelf. -/
  | found (value : α)
  /-- Another reader is fetching the value. -/
  | waits
  /-- The reader has to fetch the value, which belongs on the shelf if the epoch is still the same
  then. Readers who came through the gate have to leave it. -/
  | fetches (epoch : Nat) (gated : Bool)

namespace Shelf

variable {κ α ε : Type} [DecidableEq κ]

omit [DecidableEq κ] in
/-- An empty shelf. -/
def create (capacity : Nat) (ttl : Option Span) (h : 0 < capacity) : Shelf κ α :=
  { capacity := capacity, ttl := ttl, capacity_pos := h }

omit [DecidableEq κ] in
/-- The number of values. -/
def size (shelf : Shelf κ α) : Nat :=
  shelf.slots.length

omit [DecidableEq κ] in
/-- Holds of values that are not too old. -/
def isFresh (shelf : Shelf κ α) (now : Instant) (slot : Slot κ α) : Bool :=
  shelf.ttl.all fun ttl => now < slot.storedAt.after ttl

/-- The slot of a key. -/
def slot? (shelf : Shelf κ α) (key : κ) : Option (Slot κ α) :=
  shelf.slots.find? (·.key = key)

/-- The slots but that of one key. -/
def others (shelf : Shelf κ α) (key : κ) : List (Slot κ α) :=
  shelf.slots.filter (·.key ≠ key)

theorem nodup_others (shelf : Shelf κ α) (key : κ) : ((shelf.others key).map Slot.key).Nodup :=
  (List.filter_sublist.map _).nodup shelf.nodup_keys

theorem length_others_le (shelf : Shelf κ α) (key : κ) : (shelf.others key).length ≤ shelf.capacity :=
  Nat.le_trans (List.length_filter_le _ _) shelf.length_le

theorem not_mem_others (shelf : Shelf κ α) (key : κ) : key ∉ (shelf.others key).map Slot.key := by
  simp [others]

theorem length_others_lt {shelf : Shelf κ α} {key : κ} {slot : Slot κ α}
    (h : shelf.slot? key = some slot) : (shelf.others key).length < shelf.slots.length := by
  have hmem := List.mem_of_find?_eq_some h
  have hkey := List.find?_some h
  unfold others
  rw [List.length_filter_lt_length_iff_exists]
  exact ⟨slot, hmem, by simpa using hkey⟩

/-- Takes a key off the shelf. -/
def erase (shelf : Shelf κ α) (key : κ) : Shelf κ α :=
  { shelf with
    slots := shelf.others key
    nodup_keys := shelf.nodup_others key
    length_le := shelf.length_others_le key }

/-- Moves a slot to the front. -/
def touch (shelf : Shelf κ α) (key : κ) : Shelf κ α :=
  match h : shelf.slot? key with
  | none => shelf
  | some slot =>
    { shelf with
      slots := slot :: shelf.others key
      nodup_keys := by
        have hkey : slot.key = key := by simpa using List.find?_some h
        rw [List.map_cons, List.nodup_cons, hkey]
        exact ⟨shelf.not_mem_others key, shelf.nodup_others key⟩
      length_le := Nat.lt_of_lt_of_le (length_others_lt h) shelf.length_le }

/-- Looks a value up. One that is too old is taken off the shelf. -/
def get (shelf : Shelf κ α) (key : κ) (now : Instant) : Shelf κ α × Option α :=
  match shelf.slot? key with
  | some slot =>
    if shelf.isFresh now slot then
      ({ shelf.touch key with tally := { shelf.tally with hits := shelf.tally.hits + 1 } },
        some slot.value)
    else
      ({ shelf.erase key with tally := { shelf.tally with misses := shelf.tally.misses + 1 } }, none)
  | none => ({ shelf with tally := { shelf.tally with misses := shelf.tally.misses + 1 } }, none)

/-- Looks a value up a second time, which does not count as a hit or a miss. -/
def lookAgain (shelf : Shelf κ α) (key : κ) (now : Instant) : Shelf κ α × Option α :=
  (shelf.touch key, ((shelf.slot? key).filter (shelf.isFresh now)).map Slot.value)

/-- Puts a value on the shelf. -/
def put (shelf : Shelf κ α) (key : κ) (value : α) (now : Instant) : Shelf κ α :=
  let slot : Slot κ α := { key := key, value := value, storedAt := now }
  if h : (shelf.others key).length < shelf.capacity then
    { shelf with
      slots := slot :: shelf.others key
      nodup_keys := by
        rw [List.map_cons, List.nodup_cons]
        exact ⟨shelf.not_mem_others key, shelf.nodup_others key⟩
      length_le := h }
  else
    { shelf with
      slots := slot :: (shelf.others key).dropLast
      tally := { shelf.tally with evictions := shelf.tally.evictions + 1 }
      nodup_keys := by
        rw [List.map_cons, List.nodup_cons]
        have hsub := (List.dropLast_sublist (shelf.others key)).map Slot.key
        exact ⟨fun hmem => shelf.not_mem_others key (hsub.subset hmem),
          hsub.nodup (shelf.nodup_others key)⟩
      length_le := by
        have := shelf.length_others_le key
        have := shelf.capacity_pos
        simp only [List.length_cons, List.length_dropLast]
        omega }

/-- Puts a value on the shelf unless something has been dropped since the epoch; the truth value says
whether it was put there. -/
def putIfCurrent (shelf : Shelf κ α) (key : κ) (value : α) (epoch : Nat) (now : Instant) :
    Shelf κ α × Bool :=
  if shelf.epoch = epoch then (shelf.put key value now, true) else (shelf, false)

/-- Begins the next epoch. -/
def advance (shelf : Shelf κ α) : Shelf κ α :=
  { shelf with
    epoch := (shelf.epoch + 1) % wordCount
    tally := { shelf.tally with invalidations := shelf.tally.invalidations + 1 } }

/-- Drops the value of a key. -/
def invalidate (shelf : Shelf κ α) (key : κ) : Shelf κ α :=
  (shelf.erase key).advance

/-- Drops all values. -/
def clear (shelf : Shelf κ α) : Shelf κ α :=
  { shelf.advance with slots := [], nodup_keys := by simp, length_le := by simp }

/-- Goes through the gate that the request has come to, and looks whether the value is there by now.
If it is, the reader is done and leaves. -/
def passGate (shelf : Shelf κ α) (ticket : Ticket) (key : κ) (now : Instant) :
    Shelf κ α × Reading α :=
  if shelf.gates.isHeldBy key ticket then
    match shelf.lookAgain key now with
    | (shelf, some value) =>
      ({ shelf with gates := shelf.gates.leave key ticket }, .found value)
    | (shelf, none) => (shelf, .fetches shelf.epoch true)
  else (shelf, .waits)

/-- Begins to read a value. Readers who do not want the value of the shelf fetch it in any case. -/
def beginRead (shelf : Shelf κ α) (ticket : Ticket) (key : κ) (useCache : Bool) (now : Instant) :
    Shelf κ α × Reading α :=
  if !useCache then (shelf, .fetches shelf.epoch false)
  else
    match shelf.get key now with
    | (shelf, some value) => (shelf, .found value)
    | (shelf, none) =>
      { shelf with gates := shelf.gates.ask key ticket }.passGate ticket key now

/-- Goes on with a read that waits, if the gate is its turn. -/
def resumeRead (shelf : Shelf κ α) (ticket : Ticket) (key : κ) (now : Instant) :
    Shelf κ α × Reading α :=
  { shelf with gates := shelf.gates.enter key ticket }.passGate ticket key now

/-- Ends a read whose fetch has come to an outcome. An error leaves the values as they are. -/
def finishRead (shelf : Shelf κ α) (ticket : Ticket) (key : κ) (epoch : Nat) (gated : Bool)
    (outcome : Except ε α) (now : Instant) : Shelf κ α :=
  let shelf :=
    match outcome with
    | .ok value => (shelf.putIfCurrent key value epoch now).1
    | .error _ => shelf
  if gated then { shelf with gates := shelf.gates.leave key ticket } else shelf

/-- Reads a value while no other read goes on; the fetch may use the shelf. There is no outcome if
another read has not left the gate, as this one never ends then. -/
def read (shelf : Shelf κ α) (ticket : Ticket) (key : κ) (useCache : Bool) (now : Instant)
    (fetch : Shelf κ α → Shelf κ α × Except ε α) : Shelf κ α × Option (Except ε α) :=
  match shelf.beginRead ticket key useCache now with
  | (shelf, .found value) => (shelf, some (.ok value))
  | (shelf, .waits) => (shelf, none)
  | (shelf, .fetches epoch gated) =>
    let (shelf, outcome) := fetch shelf
    (shelf.finishRead ticket key epoch gated outcome now, some outcome)

end Shelf

end ChatNotify.Cache
