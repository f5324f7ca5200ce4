import ChatNotify.Cache.Shelves

namespace ChatNotify

/-- The cached values, the events that wait, and the rules that join them. -/
structure Cache where
  settings : Cache.Settings := {}
  shelves : Cache.Shelves
  queue : Cache.EventQueue := {}
  hooks : Cache.Hooks := .standard
  /-- The number of batches of events dealt with. -/
  batches : Nat := 0

namespace Cache

/-- An empty cache. -/
def create (settings : Settings) (hooks : Hooks) : Cache :=
  { settings := settings, shelves := .create settings, hooks := hooks }

/-- Takes the next batch out of the queue and drops what its events make out of date. -/
def consumeBatch (cache : Cache) : Cache × List Published :=
  let (queue, events) := cache.queue.drain cache.settings.batchSize
  if events.isEmpty then ({ cache with queue := queue }, [])
  else
    ({ cache with
        queue := queue
        shelves := cache.shelves.apply (.ofEvents cache.hooks events)
        batches := cache.batches + 1 }, events)

theorem size_consumeBatch_lt (cache : Cache) (h : cache.consumeBatch.2 ≠ []) :
    cache.consumeBatch.1.queue.size < cache.queue.size := by
  unfold consumeBatch EventQueue.drain EventQueue.size at *
  have hpos : 0 < cache.settings.batchSize :=
    Nat.lt_of_lt_of_le Nat.one_pos (Nat.le_max_left _ _)
  by_cases hqueue : cache.queue.pending = []
  · simp [hqueue] at h
  · have hlength := List.length_pos_iff.2 hqueue
    have htake : cache.queue.pending.take cache.settings.batchSize ≠ [] := by
      simp [hqueue]; omega
    simp only [List.isEmpty_iff, htake, if_false, List.length_drop]
    omega

/-- Deals with all events that wait; the truth value says whether there were any. -/
def consume (cache : Cache) : Cache × Bool :=
  if _ : cache.consumeBatch.2 = [] then (cache.consumeBatch.1, false)
  else ((consume cache.consumeBatch.1).1, true)
termination_by cache.queue.size
decreasing_by exact cache.size_consumeBatch_lt ‹_›

/-- Publishes an event, and deals with all that wait if that is wanted. A cache that is switched off
takes no notice. -/
def publish (cache : Cache) (event : Event) (consumeNow : Bool) : Cache :=
  if !cache.settings.enabled then cache
  else
    let cache := { cache with queue := cache.queue.publish event }
    if consumeNow then cache.consume.1 else cache

/-- Publishes an event and deals with it, so that whoever writes finds nothing out of date
afterwards. -/
def announce (cache : Cache) (event : Event) : Cache :=
  cache.publish event true

/-- Drops a target at once. -/
def invalidate (cache : Cache) (target : Target) : Cache :=
  { cache with shelves := cache.shelves.invalidate target }

/-- Adds a rule. -/
def register (cache : Cache) (kind : EventKind) (targets : Event → List Target) : Cache :=
  { cache with hooks := cache.hooks.register kind targets }

/-- Changes the shelf of a namespace. -/
def modify (cache : Cache) (space : Namespace)
    (change : Shelf space.Key space.Value → Shelf space.Key space.Value) : Cache :=
  { cache with shelves := cache.shelves.modify space change }

/-- Looks a cached value up. -/
def look (cache : Cache) (space : Namespace) (key : space.Key) (now : Instant) :
    Cache × Option space.Value :=
  let (shelf, value) := (cache.shelves.shelf space).get key now
  ({ cache with shelves := cache.shelves.replace space shelf }, value)

end Cache

end ChatNotify
