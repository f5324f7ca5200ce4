import ChatNotify.Proofs.Cache.Invalidation
import Mathlib.Algebra.Ring.Nat

namespace ChatNotify.Cache

/-- Drops what the rules name for the events, one event after the other and each target by itself. -/
def Shelves.dropEach (shelves : Shelves) (hooks : Hooks) (events : List Published) : Shelves :=
  events.foldl (fun shelves published => (hooks.targets published.event).foldl invalidate shelves) shelves

theorem Shelves.slots_dropEach (shelves : Shelves) (hooks : Hooks) (events : List Published) (space : Namespace) :
    ((shelves.dropEach hooks events).shelf space).slots =
      uncovered (hooks.targetsOf events) (shelves.shelf space).slots := by
  rw [← slots_foldl_invalidate, Hooks.targetsOf, List.foldl_flatMap]
  rfl

/-- Events that are all different are taken as they are. -/
theorem distinctEvents_eq_self {events : List Published} (hdistinct : (events.map Published.id).Nodup) :
    distinctEvents events = events := by
  have hfold (seen rest : List Published) (hnodup : ((seen ++ rest).map Published.id).Nodup) :
      rest.foldl (fun seen event => if seen.any (·.id = event.id) then seen else seen ++ [event]) seen =
        seen ++ rest := by
    induction rest generalizing seen with
    | nil => exact (List.append_nil seen).symm
    | cons event rest ih =>
      have hnew : seen.any (·.id = event.id) = false := by
        rw [List.map_append, List.nodup_append] at hnodup
        refine List.any_eq_false.2 fun other hother hsame => ?_
        exact hnodup.2.2 other.id (List.mem_map_of_mem hother) event.id (by simp) (of_decide_eq_true hsame)
      rw [List.foldl_cons, hnew, if_neg Bool.false_ne_true, ih (seen ++ [event]) (by simpa using hnodup),
        List.append_assoc, List.singleton_append]
  exact hfold [] events hdistinct

/-- The second shelf is the first one so many epochs later, and each drop that began one was counted. -/
def Shelf.AdvancesBy {κ α : Type} (steps : Nat) (before after : Shelf κ α) : Prop :=
  after.tally.invalidations = before.tally.invalidations + steps ∧
    after.epoch = if steps = 0 then before.epoch else (before.epoch + steps) % wordCount

namespace Shelf

variable {κ α : Type} {before middle after : Shelf κ α} {steps more : Nat}

theorem AdvancesBy.refl (shelf : Shelf κ α) : shelf.AdvancesBy 0 shelf :=
  ⟨rfl, rfl⟩

theorem AdvancesBy.trans (hfirst : before.AdvancesBy steps middle) (hsecond : middle.AdvancesBy more after) :
    before.AdvancesBy (steps + more) after := by
  refine ⟨by rw [hsecond.1, hfirst.1, Nat.add_assoc], ?_⟩
  rw [hsecond.2, hfirst.2]
  by_cases hmore : more = 0
  · rw [if_pos hmore, hmore, Nat.add_zero]
  · rw [if_neg hmore, if_neg (mt Nat.eq_zero_of_add_eq_zero_left hmore)]
    split
    · next hnone => rw [hnone, Nat.zero_add]
    · rw [Nat.mod_add_mod, Nat.add_assoc]

/-- The epoch is another one, unless so many have gone by that it has come round. -/
theorem AdvancesBy.epoch_ne (hadvances : before.AdvancesBy steps after) (hpos : 0 < steps)
    (hlt : steps < wordCount) : after.epoch ≠ before.epoch := by
  rw [hadvances.2, if_neg (Nat.ne_of_gt hpos)]
  unfold wordCount at hlt ⊢
  omega

theorem advancesBy_foldl_invalidate [DecidableEq κ] (keys : List κ) (shelf : Shelf κ α) :
    shelf.AdvancesBy keys.length (keys.foldl Shelf.invalidate shelf) := by
  induction keys generalizing shelf with
  | nil => exact .refl shelf
  | cons first rest ih =>
    have hfirst : shelf.AdvancesBy 1 (shelf.invalidate first) := ⟨rfl, rfl⟩
    rw [List.length_cons, Nat.add_comm]
    exact hfirst.trans (ih _)

end Shelf

/-- How many epochs of a namespace go by when the target is dropped. -/
def Target.epochs (space : Namespace) (target : Target) : Nat :=
  if target.space = space then
    match target with
    | .posts _ => pageSizes.length
    | _ => 1
  else 0

theorem Target.epochs_pos_iff {space : Namespace} {target : Target} :
    0 < target.epochs space ↔ target.space = space := by
  unfold epochs
  split
  · next hspace =>
    refine iff_of_true ?_ hspace
    split <;> decide
  · next hspace => exact iff_of_false (Nat.lt_irrefl 0) hspace

namespace Shelves

theorem advancesBy_invalidate (shelves : Shelves) (target : Target) (space : Namespace) :
    (shelves.shelf space).AdvancesBy (target.epochs space) ((shelves.invalidate target).shelf space) := by
  by_cases hspace : target.space = space
  · subst hspace
    cases target with
    | lastPostTime channel => exact ⟨rfl, rfl⟩
    | posts channel => exact Shelf.advancesBy_foldl_invalidate (pageSizes.map fun size => (channel, size)) _
    | fileInfos post withDeleted => exact ⟨rfl, rfl⟩
    | memberCount channel => exact ⟨rfl, rfl⟩
    | all cleared => cases cleared <;> exact ⟨rfl, rfl⟩
  · have hsame : (shelves.invalidate target).shelf space = shelves.shelf space := by
      cases target <;> exact shelves.shelf_modify_of_ne (Ne.symm hspace) _
    have hnone : target.epochs space = 0 := if_neg hspace
    rw [hsame, hnone]
    exact .refl _

theorem advancesBy_foldl_invalidate (targets : List Target) (shelves : Shelves) (space : Namespace) :
    (shelves.shelf space).AdvancesBy (targets.map (Target.epochs space)).sum
      ((targets.foldl invalidate shelves).shelf space) := by
  induction targets generalizing shelves with
  | nil => exact .refl _
  | cons first rest ih => exact (shelves.advancesBy_invalidate first space).trans (ih _)

/-- A plan begins an epoch in the namespaces in which the rules want something dropped. -/
theorem exists_advancesBy_apply (shelves : Shelves) (hooks : Hooks) (events : List Published) (space : Namespace) :
    ∃ steps, (shelves.shelf space).AdvancesBy steps ((shelves.apply (.ofEvents hooks events)).shelf space) ∧
      (0 < steps ↔ ∃ target ∈ hooks.targetsOf (distinctEvents events), target.space = space) := by
  rw [apply_eq_foldl]
  refine ⟨_, advancesBy_foldl_invalidate _ _ _, ?_⟩
  have hpos (targets : List Target) :
      0 < (targets.map (Target.epochs space)).sum ↔ ∃ target ∈ targets, target.space = space := by
    rw [List.sum_pos_iff_exists_pos_nat]
    constructor
    · rintro ⟨steps, hsteps, hpos⟩
      obtain ⟨target, htarget, rfl⟩ := List.mem_map.1 hsteps
      exact ⟨target, htarget, Target.epochs_pos_iff.1 hpos⟩
    · rintro ⟨target, htarget, hspace⟩
      exact ⟨_, List.mem_map_of_mem htarget, Target.epochs_pos_iff.2 hspace⟩
  rw [hpos]
  constructor
  · rintro ⟨target, htarget, hspace⟩
    exact ⟨target, InvalidationPlan.mem_targetsOf_of_mem_drops htarget, hspace⟩
  · rintro ⟨target, htarget, rfl⟩
    rcases InvalidationPlan.mem_drops_or_of_mem_targetsOf htarget with hitself | hwhole
    · exact ⟨target, hitself, rfl⟩
    · exact ⟨.all target.space, hwhole, rfl⟩

end Shelves

/-- The events of a batch come before those that are left. -/
theorem Hooks.targetsOf_eq_append (hooks : Hooks) (events : List Published) (size : Nat) :
    hooks.targetsOf events = hooks.targetsOf (events.take size) ++ hooks.targetsOf (events.drop size) := by
  rw [targetsOf, targetsOf, targetsOf, ← List.flatMap_append, List.take_append_drop]

/-- A batch is empty only if nothing waits. -/
theorem consumeBatch_of_eq_nil {cache : Cache} (hnone : cache.consumeBatch.2 = []) :
    cache.queue.pending = [] ∧
      cache.consumeBatch.1 = { cache with queue := { cache.queue with reported := true } } := by
  have hroom : 0 < cache.settings.batchSize := Nat.lt_of_lt_of_le Nat.one_pos (Nat.le_max_left _ _)
  have hpending : cache.queue.pending = [] := by
    unfold consumeBatch EventQueue.drain at hnone
    dsimp only at hnone
    split at hnone
    · next htake =>
      refine (List.take_eq_nil_iff.1 (List.isEmpty_iff.1 htake)).resolve_left (Nat.ne_of_gt hroom)
    · next htake => exact absurd hnone (mt List.isEmpty_iff.2 htake)
  refine ⟨hpending, ?_⟩
  simp [consumeBatch, EventQueue.drain, hpending]

/-- Any other batch has its plan carried out. -/
theorem consumeBatch_of_ne_nil {cache : Cache} (hsome : cache.consumeBatch.2 ≠ []) :
    cache.consumeBatch.1 = { cache with
      queue := { cache.queue with
        pending := cache.queue.pending.drop cache.settings.batchSize
        reported := true }
      shelves := cache.shelves.apply
        (.ofEvents cache.hooks (cache.queue.pending.take cache.settings.batchSize))
      batches := cache.batches + 1 } := by
  unfold consumeBatch EventQueue.drain at hsome ⊢
  dsimp only at hsome ⊢
  split at hsome
  · exact absurd rfl hsome
  · next htake => rw [if_neg htake]

/-- No event is left. -/
theorem pending_consume (cache : Cache) : cache.consume.1.queue.pending = [] := by
  induction cache using consume.induct with
  | case1 cache hnone =>
    obtain ⟨hpending, hbatch⟩ := consumeBatch_of_eq_nil hnone
    rw [consume, dif_pos hnone, hbatch]
    exact hpending
  | case2 cache hsome ih =>
    rw [consume, dif_neg hsome]
    exact ih

/-- The values stay that no target of any event covers, in the order in which they were. -/
theorem slots_consume (cache : Cache) (hdistinct : (cache.queue.pending.map Published.id).Nodup)
    (space : Namespace) : (cache.consume.1.shelves.shelf space).slots =
      uncovered (cache.hooks.targetsOf cache.queue.pending) (cache.shelves.shelf space).slots := by
  induction cache using consume.induct with
  | case1 cache hnone =>
    obtain ⟨hpending, hbatch⟩ := consumeBatch_of_eq_nil hnone
    rw [consume, dif_pos hnone, hbatch, hpending]
    exact uncovered_nil.symm
  | case2 cache hsome ih =>
    rw [consumeBatch_of_ne_nil hsome] at ih
    rw [consume, dif_neg hsome, consumeBatch_of_ne_nil hsome]
    have htake := ((List.take_sublist cache.settings.batchSize _).map _).nodup hdistinct
    have hdrop := ((List.drop_sublist cache.settings.batchSize _).map _).nodup hdistinct
    refine (ih hdrop).trans ?_
    rw [Shelves.slots_apply_ofEvents, distinctEvents_eq_self htake, ← uncovered_append,
      ← Hooks.targetsOf_eq_append]

/-- Epochs go by in the namespaces in which the rules want something dropped for one of the events. -/
theorem exists_advancesBy_consume (cache : Cache) (hdistinct : (cache.queue.pending.map Published.id).Nodup)
    (space : Namespace) :
    ∃ steps, (cache.shelves.shelf space).AdvancesBy steps (cache.consume.1.shelves.shelf space) ∧
      (0 < steps ↔ ∃ target ∈ cache.hooks.targetsOf cache.queue.pending, target.space = space) := by
  induction cache using consume.induct with
  | case1 cache hnone =>
    obtain ⟨hpending, hbatch⟩ := consumeBatch_of_eq_nil hnone
    rw [consume, dif_pos hnone, hbatch, hpending]
    exact ⟨0, .refl _, by simp [Hooks.targetsOf]⟩
  | case2 cache hsome ih =>
    rw [consumeBatch_of_ne_nil hsome] at ih
    rw [consume, dif_neg hsome, consumeBatch_of_ne_nil hsome]
    have htake := ((List.take_sublist cache.settings.batchSize _).map _).nodup hdistinct
    have hdrop := ((List.drop_sublist cache.settings.batchSize _).map _).nodup hdistinct
    obtain ⟨first, hfirst, hfirstPos⟩ := cache.shelves.exists_advancesBy_apply cache.hooks
      (cache.queue.pending.take cache.settings.batchSize) space
    obtain ⟨rest, hrest, hrestPos⟩ := ih hdrop
    refine ⟨first + rest, hfirst.trans hrest, ?_⟩
    rw [distinctEvents_eq_self htake] at hfirstPos
    rw [Nat.add_pos_iff_pos_or_pos, hfirstPos, hrestPos,
      cache.hooks.targetsOf_eq_append cache.queue.pending cache.settings.batchSize]
    simp only [List.mem_append, or_and_right, exists_or]

/-- Dealing with events in batches comes to the same as dropping, for one event after the other, every target
that the rules name for it. No event is left, and the values that stay on each shelf are the same, with the
times at which they were put there and in the same order; for them neither the settings nor the order of the
events matters. A namespace has come to another epoch exactly if the rules name a target in it for one of
the events. -/
theorem consume_drops_each (cache : Cache) (hdistinct : (cache.queue.pending.map Published.id).Nodup) :
    let spent := cache.consume.1
    spent.queue.pending = [] ∧
    (∀ space, (spent.shelves.shelf space).slots =
      ((cache.shelves.dropEach cache.hooks cache.queue.pending).shelf space).slots) ∧
    (∀ (settings : Settings) (events : List Published), events.Perm cache.queue.pending → ∀ space,
      ((consume { cache with
          settings := settings
          queue := { cache.queue with pending := events } }).1.shelves.shelf space).slots =
        (spent.shelves.shelf space).slots) ∧
    ∀ space, ∃ steps, (cache.shelves.shelf space).AdvancesBy steps (spent.shelves.shelf space) ∧
      (0 < steps ↔ ∃ target ∈ cache.hooks.targetsOf cache.queue.pending, target.space = space) ∧
      (steps < wordCount → ((spent.shelves.shelf space).epoch ≠ (cache.shelves.shelf space).epoch ↔
        ∃ target ∈ cache.hooks.targetsOf cache.queue.pending, target.space = space)) := by
  intro spent
  refine ⟨pending_consume cache, ?_, ?_, ?_⟩
  · intro space
    rw [slots_consume cache hdistinct, Shelves.slots_dropEach]
  · intro settings events hperm space
    have hsame := slots_consume { cache with settings := settings, queue := { cache.queue with pending := events } }
      ((hperm.map _).nodup_iff.2 hdistinct) space
    refine hsame.trans ((uncovered_congr fun key => ?_).trans (slots_consume cache hdistinct space).symm)
    exact exists_congr fun target => and_congr_left fun _ => (hperm.flatMap_right _).mem_iff
  · intro space
    obtain ⟨steps, hadvances, hpos⟩ := exists_advancesBy_consume cache hdistinct space
    refine ⟨steps, hadvances, hpos, fun hlt => ?_⟩
    rw [← hpos]
    constructor
    · intro hne
      rw [Nat.pos_iff_ne_zero]
      rintro rfl
      exact hne hadvances.2
    · exact fun hsome => hadvances.epoch_ne hsome hlt

/-- Three events in batches of one, whatever the settings ask for, leave the posts of another channel. -/
theorem batches_of_one_leave_other_channel :
    let shelves := ((Shelves.create {}).modify .posts fun shelf =>
      (shelf.put (⟨8⟩, 60) {} .epoch).put (⟨7⟩, 30) {} .epoch)
    let cache : Cache := { settings := { batchLimit := 0 }, shelves := shelves }
    let cache := ((cache.publish (.postsChanged ⟨7⟩) false).publish (.channelMembersChanged ⟨7⟩) false).publish
      (.postCreated ⟨7⟩ ⟨1⟩) false
    (cache.queue.pending.map Published.id).Nodup ∧ cache.consume.1.queue.pending = [] ∧
      (cache.consume.1.shelves.shelf .posts).slots.map Slot.key = [(⟨8⟩, 60)] := by
  intro shelves before cache
  have hdistinct : (cache.queue.pending.map Published.id).Nodup := by decide
  obtain ⟨hpending, hslots, -⟩ := consume_drops_each cache hdistinct
  refine ⟨hdistinct, hpending, ?_⟩
  rw [hslots]
  rfl

end ChatNotify.Cache
