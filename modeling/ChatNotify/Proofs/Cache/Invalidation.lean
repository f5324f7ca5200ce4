import ChatNotify.Cache.Basic
import ChatNotify.Proofs.Cache.Shelf

namespace ChatNotify.Cache

namespace Target

/-- The keys whose values are dropped with a target. -/
def Covers : Target → (space : Namespace) → space.Key → Prop
  | .lastPostTime channel, .lastPostTime, key => key = channel
  | .posts channel, .posts, key => key.1 = channel ∧ key.2 ∈ pageSizes
  | .fileInfos post withDeleted, .fileInfos, key => key = (post, withDeleted)
  | .memberCount channel, .memberCounts, key => key = channel
  | .all cleared, space, _ => space = cleared
  | _, _, _ => False

theorem Covers.space_eq {target : Target} {space : Namespace} {key : space.Key}
    (hcovers : target.Covers space key) : space = target.space := by
  cases target <;> cases space <;> first | rfl | exact hcovers | exact hcovers.elim

instance decidableCovers :
    (target : Target) → (space : Namespace) → (key : space.Key) → Decidable (target.Covers space key)
  | .lastPostTime channel, .lastPostTime, key => inferInstanceAs (Decidable (key = channel))
  | .posts channel, .posts, key => inferInstanceAs (Decidable (key.1 = channel ∧ key.2 ∈ pageSizes))
  | .fileInfos post withDeleted, .fileInfos, key => inferInstanceAs (Decidable (key = (post, withDeleted)))
  | .memberCount channel, .memberCounts, key => inferInstanceAs (Decidable (key = channel))
  | .all cleared, space, _ => inferInstanceAs (Decidable (space = cleared))
  | .lastPostTime _, .posts, _ | .lastPostTime _, .fileInfos, _ | .lastPostTime _, .memberCounts, _
  | .posts _, .lastPostTime, _ | .posts _, .fileInfos, _ | .posts _, .memberCounts, _
  | .fileInfos .., .lastPostTime, _ | .fileInfos .., .posts, _ | .fileInfos .., .memberCounts, _
  | .memberCount _, .lastPostTime, _ | .memberCount _, .posts, _ | .memberCount _, .fileInfos, _ => isFalse id

end Target

/-- The slots whose keys none of the targets covers. -/
def uncovered (targets : List Target) {space : Namespace} (slots : List (Slot space.Key space.Value)) :
    List (Slot space.Key space.Value) :=
  slots.filter fun slot => ∀ target ∈ targets, ¬ target.Covers space slot.key

section

variable {targets others : List Target} {space : Namespace} {slots : List (Slot space.Key space.Value)}

/-- It matters only which keys the targets cover together. -/
theorem uncovered_congr (hsame : ∀ key : space.Key, (∃ target ∈ targets, target.Covers space key) ↔
    ∃ target ∈ others, target.Covers space key) : uncovered targets slots = uncovered others slots := by
  refine List.filter_congr fun slot _ => decide_eq_decide.2 ?_
  simpa only [not_exists, not_and] using not_congr (hsame slot.key)

theorem uncovered_nil : uncovered [] slots = slots := by
  simp [uncovered]

theorem uncovered_singleton {target : Target} :
    uncovered [target] slots = slots.filter fun slot => ¬ target.Covers space slot.key := by
  simp [uncovered]

theorem uncovered_append : uncovered (targets ++ others) slots = uncovered others (uncovered targets slots) := by
  simp only [uncovered, List.filter_filter, List.forall_mem_append, Bool.decide_and, Bool.and_comm]

end

theorem Shelf.slots_foldl_invalidate {κ α : Type} [DecidableEq κ] (keys : List κ) (shelf : Shelf κ α) :
    (keys.foldl Shelf.invalidate shelf).slots = shelf.slots.filter (·.key ∉ keys) := by
  induction keys generalizing shelf with
  | nil => exact (List.filter_eq_self.2 fun _ _ => rfl).symm
  | cons first rest ih =>
    have hfirst : (shelf.invalidate first).slots = shelf.slots.filter (·.key ≠ first) := rfl
    rw [List.foldl_cons, ih, hfirst, List.filter_filter]
    refine List.filter_congr fun slot _ => ?_
    rw [← Bool.decide_and]
    exact decide_eq_decide.2 (by rw [List.mem_cons, not_or, and_comm])

namespace Shelves

/-- A target takes all keys with it that it covers. The posts of a channel go for every size of pages. -/
theorem slots_invalidate (shelves : Shelves) (target : Target) (space : Namespace) :
    ((shelves.invalidate target).shelf space).slots = uncovered [target] (shelves.shelf space).slots := by
  rw [uncovered_singleton]
  by_cases hspace : space = target.space
  · subst hspace
    cases target with
    | lastPostTime channel => rfl
    | fileInfos post withDeleted => rfl
    | memberCount channel => rfl
    | posts channel =>
      have hfold : (shelves.invalidate (.posts channel)).shelf .posts =
          (pageSizes.map fun size => (channel, size)).foldl Shelf.invalidate (shelves.shelf .posts) := by
        rw [List.foldl_map]
        rfl
      refine (congrArg Shelf.slots hfold).trans ?_
      rw [Shelf.slots_foldl_invalidate]
      refine List.filter_congr fun slot _ => decide_eq_decide.2 (not_congr ?_)
      rw [List.mem_map]
      constructor
      · rintro ⟨size, hsize, hkey⟩
        rw [← hkey]
        exact ⟨rfl, hsize⟩
      · rintro ⟨hchannel, hsize⟩
        exact ⟨_, hsize, Prod.ext hchannel.symm rfl⟩
    | all cleared =>
      have hclear : ((shelves.clear cleared).shelf cleared).slots = [] :=
        congrArg Shelf.slots (shelves.shelf_modify_self cleared Shelf.clear)
      refine hclear.trans (List.filter_eq_nil_iff.2 fun slot _ => ?_).symm
      simp [Target.Covers, Target.space]
  · have hsame : (shelves.invalidate target).shelf space = shelves.shelf space := by
      cases target <;> exact shelves.shelf_modify_of_ne hspace _
    rw [hsame]
    exact (List.filter_eq_self.2 fun _ _ => decide_eq_true (mt Target.Covers.space_eq hspace)).symm

theorem slots_foldl_invalidate (targets : List Target) (shelves : Shelves) (space : Namespace) :
    ((targets.foldl invalidate shelves).shelf space).slots = uncovered targets (shelves.shelf space).slots := by
  induction targets generalizing shelves with
  | nil => exact uncovered_nil.symm
  | cons first rest ih => rw [List.foldl_cons, ih, slots_invalidate, ← uncovered_append, List.singleton_append]

end Shelves

namespace InvalidationPlan

/-- What a plan drops, in the order in which it is carried out. -/
def drops (plan : InvalidationPlan) : List Target :=
  plan.cleared.map Target.all ++ plan.targets

end InvalidationPlan

/-- What the rules name for several events, one after the other. -/
def Hooks.targetsOf (hooks : Hooks) (events : List Published) : List Target :=
  events.flatMap fun published => hooks.targets published.event

theorem Shelves.apply_eq_foldl (shelves : Shelves) (plan : InvalidationPlan) :
    shelves.apply plan = plan.drops.foldl invalidate shelves := by
  rw [InvalidationPlan.drops, List.foldl_append, List.foldl_map]
  rfl

namespace InvalidationPlan

variable {hooks : Hooks} {events : List Published} {target : Target}

theorem mem_cleared_ofEvents {space : Namespace} :
    space ∈ (ofEvents hooks events).cleared ↔ .all space ∈ hooks.targetsOf (distinctEvents events) := by
  have hclears (target : Target) : clearedBy? target = some space ↔ target = .all space := by
    cases target <;> simp [clearedBy?]
  simp [ofEvents, Hooks.targetsOf, hclears]

theorem mem_targets_ofEvents : target ∈ (ofEvents hooks events).targets ↔
    target ∈ hooks.targetsOf (distinctEvents events) ∧ target.space ∉ (ofEvents hooks events).cleared := by
  simp [ofEvents, Hooks.targetsOf]

theorem mem_targetsOf_of_mem_drops (htarget : target ∈ (ofEvents hooks events).drops) :
    target ∈ hooks.targetsOf (distinctEvents events) := by
  rcases List.mem_append.1 htarget with hcleared | htargets
  · obtain ⟨space, hspace, rfl⟩ := List.mem_map.1 hcleared
    exact mem_cleared_ofEvents.1 hspace
  · exact (mem_targets_ofEvents.1 htargets).1

/-- What the rules name is dropped by itself or with its whole namespace. -/
theorem mem_drops_or_of_mem_targetsOf (htarget : target ∈ hooks.targetsOf (distinctEvents events)) :
    target ∈ (ofEvents hooks events).drops ∨ .all target.space ∈ (ofEvents hooks events).drops := by
  by_cases hcleared : target.space ∈ (ofEvents hooks events).cleared
  · exact .inr (List.mem_append_left _ (List.mem_map_of_mem hcleared))
  · exact .inl (List.mem_append_right _ (mem_targets_ofEvents.2 ⟨htarget, hcleared⟩))

/-- A plan covers the keys that the rules want dropped, and no others. -/
theorem covers_ofEvents_iff {space : Namespace} {key : space.Key} :
    (∃ target ∈ (ofEvents hooks events).drops, target.Covers space key) ↔
      ∃ target ∈ hooks.targetsOf (distinctEvents events), target.Covers space key := by
  constructor
  · rintro ⟨target, htarget, hcovers⟩
    exact ⟨target, mem_targetsOf_of_mem_drops htarget, hcovers⟩
  · rintro ⟨target, htarget, hcovers⟩
    rcases mem_drops_or_of_mem_targetsOf htarget with hitself | hwhole
    · exact ⟨target, hitself, hcovers⟩
    · exact ⟨.all target.space, hwhole, hcovers.space_eq⟩

end InvalidationPlan

theorem Shelves.slots_apply_ofEvents (shelves : Shelves) (hooks : Hooks) (events : List Published)
    (space : Namespace) : ((shelves.apply (.ofEvents hooks events)).shelf space).slots =
      uncovered (hooks.targetsOf (distinctEvents events)) (shelves.shelf space).slots := by
  rw [apply_eq_foldl, slots_foldl_invalidate]
  exact uncovered_congr fun _ => InvalidationPlan.covers_ofEvents_iff

namespace Shelves

/-- All values on the shelves have the property. -/
def Hold (P : (space : Namespace) → space.Key → space.Value → Prop) (shelves : Shelves) : Prop :=
  ∀ space, (shelves.shelf space).Holds (P space)

variable {P Q : (space : Namespace) → space.Key → space.Value → Prop} {shelves : Shelves}

theorem Hold.imp (hhold : shelves.Hold P) (himp : ∀ space key value, P space key value → Q space key value) :
    shelves.Hold Q :=
  fun space => (hhold space).imp (himp space)

theorem hold_create (settings : Settings) : (create settings).Hold P := by
  intro space
  cases space <;> exact fun _ hslot => nomatch hslot

/-- A change to one shelf is all that has to be looked at. -/
theorem Hold.replace_preserves_hold (hhold : shelves.Hold P) {space : Namespace} {shelf : Shelf space.Key space.Value}
    (hshelf : shelf.Holds (Q space))
    (hothers : ∀ other key value, other ≠ space → P other key value → Q other key value) :
    (shelves.replace space shelf).Hold Q :=
  shelves.forall_shelf_replace (P := fun space shelf => shelf.Holds (Q space)) hshelf fun other hother =>
    (hhold other).imp fun key value => hothers other key value hother

/-- What no target covers keeps its property. -/
theorem Hold.uncovered (hhold : shelves.Hold P) {after : Shelves} {targets : List Target}
    (hslots : ∀ space, (after.shelf space).slots = Cache.uncovered targets (shelves.shelf space).slots) :
    after.Hold fun space key value => P space key value ∧ ∀ target ∈ targets, ¬ target.Covers space key := by
  intro space slot hslot
  rw [hslots] at hslot
  obtain ⟨hmem, hkept⟩ := List.mem_filter.1 hslot
  exact ⟨hhold space slot hmem, of_decide_eq_true hkept⟩

theorem Hold.invalidate_preserves_hold (hhold : shelves.Hold P) (target : Target) :
    (shelves.invalidate target).Hold fun space key value => P space key value ∧ ¬ target.Covers space key :=
  (hhold.uncovered (shelves.slots_invalidate target)).imp fun _ _ _ hkept =>
    ⟨hkept.1, hkept.2 target (List.mem_singleton_self _)⟩

end Shelves

section

variable {P : (space : Namespace) → space.Key → space.Value → Prop} {cache : Cache}

private theorem consume_of_pending_eq_nil (hpending : cache.queue.pending = []) :
    cache.consume.1 = { cache with queue := { cache.queue with reported := true } } := by
  have hbatch : cache.consumeBatch = ({ cache with queue := { cache.queue with reported := true } }, []) := by
    simp [consumeBatch, EventQueue.drain, hpending]
  rw [consume, dif_pos (by rw [hbatch]), hbatch]

/-- An announced event is dealt with alone if no other waits, whatever room a batch has. -/
theorem announce_of_pending_eq_nil (henabled : cache.settings.enabled = true) (hpending : cache.queue.pending = [])
    (event : Event) :
    let published : Published :=
      { id := ⟨cache.queue.published⟩, sequence := cache.queue.published, event := event }
    cache.announce event =
      { cache with
        queue := { pending := [], published := cache.queue.published + 1, reported := true }
        shelves := cache.shelves.apply (.ofEvents cache.hooks [published])
        batches := cache.batches + 1 } := by
  intro published
  have hroom : ∃ rest, cache.settings.batchSize = rest + 1 :=
    Nat.exists_eq_add_one.2 (Nat.lt_of_lt_of_le Nat.one_pos (Nat.le_max_left _ _))
  obtain ⟨rest, hroom⟩ := hroom
  have hbatch : consumeBatch { cache with queue := cache.queue.publish event } =
      ({ cache with
          queue := { pending := [], published := cache.queue.published + 1, reported := true }
          shelves := cache.shelves.apply (.ofEvents cache.hooks [published])
          batches := cache.batches + 1 }, [published]) := by
    simp [consumeBatch, EventQueue.publish, EventQueue.drain, hpending, hroom, published]
  unfold announce publish
  simp only [henabled, Bool.not_true, Bool.false_eq_true, if_false, if_true]
  rw [consume, dif_neg (by rw [hbatch]; exact List.cons_ne_nil _ _), hbatch]
  exact consume_of_pending_eq_nil rfl

/-- An announced event takes all keys with it that one of its targets covers. -/
theorem hold_announce (henabled : cache.settings.enabled = true) (hpending : cache.queue.pending = [])
    (hhold : cache.shelves.Hold P) (event : Event) :
    (cache.announce event).shelves.Hold fun space key value =>
      P space key value ∧ ∀ target ∈ cache.hooks.targets event, ¬ target.Covers space key := by
  rw [announce_of_pending_eq_nil henabled hpending]
  refine (hhold.uncovered (cache.shelves.slots_apply_ofEvents cache.hooks _)).imp ?_
  rintro space key value ⟨hP, hkept⟩
  exact ⟨hP, fun target htarget => hkept target (by simpa [Hooks.targetsOf, distinctEvents] using htarget)⟩

end

end ChatNotify.Cache
