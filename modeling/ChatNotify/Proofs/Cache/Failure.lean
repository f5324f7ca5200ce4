import ChatNotify.Proofs.Cache.Archive
import ChatNotify.Proofs.Cache.Occupancy

namespace ChatNotify.Cache

namespace Shelf

variable {κ α ε : Type} {now : Instant} {shelf before after later : Shelf κ α}

/-- From the instant on the same values are on the shelf and not too old, and nothing has been dropped or made room
for another. -/
structure KeepsSince (now : Instant) (before after : Shelf κ α) : Prop where
  capacity : after.capacity = before.capacity
  ttl : after.ttl = before.ttl
  epoch : after.epoch = before.epoch
  evictions : after.tally.evictions = before.tally.evictions
  invalidations : after.tally.invalidations = before.tally.invalidations
  fresh : ∀ instant, now ≤ instant → ∀ slot,
    slot ∈ after.slots ∧ after.isFresh instant slot = true ↔ slot ∈ before.slots ∧ before.isFresh instant slot = true

namespace KeepsSince

theorem refl (now : Instant) (shelf : Shelf κ α) : shelf.KeepsSince now shelf :=
  ⟨rfl, rfl, rfl, rfl, rfl, fun _ _ _ => .rfl⟩

theorem trans (hbefore : before.KeepsSince now after) (hafter : after.KeepsSince now later) :
    before.KeepsSince now later where
  capacity := hafter.capacity.trans hbefore.capacity
  ttl := hafter.ttl.trans hbefore.ttl
  epoch := hafter.epoch.trans hbefore.epoch
  evictions := hafter.evictions.trans hbefore.evictions
  invalidations := hafter.invalidations.trans hbefore.invalidations
  fresh instant hle slot := (hafter.fresh instant hle slot).trans (hbefore.fresh instant hle slot)

end KeepsSince

variable [DecidableEq κ]

end Shelf

namespace Layer

variable {σ : Type} {now : Instant} {layer before after later : Layer σ} {backing : Backing σ} {request : Request}
  {error : StoreError} {ticket : Ticket}

/-- From the instant on the shelves are as good as before, and the stores, the events that wait and all else but the
shelves are the same. -/
structure KeepsSince (now : Instant) (before after : Layer σ) : Prop where
  store : after.store = before.store
  cache : after.cache = { before.cache with shelves := after.cache.shelves }
  shelves : ∀ space, (before.cache.shelves.shelf space).KeepsSince now (after.cache.shelves.shelf space)

namespace KeepsSince

theorem refl (now : Instant) (layer : Layer σ) : layer.KeepsSince now layer :=
  ⟨rfl, rfl, fun _ => .refl ..⟩

theorem trans (hbefore : before.KeepsSince now after) (hafter : after.KeepsSince now later) :
    before.KeepsSince now later where
  store := hafter.store.trans hbefore.store
  cache := by rw [hafter.cache, hbefore.cache]
  shelves space := (hbefore.shelves space).trans (hafter.shelves space)

end KeepsSince

end Layer

end ChatNotify.Cache
