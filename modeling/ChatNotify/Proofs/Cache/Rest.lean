import ChatNotify.Cache.Shelves
import ChatNotify.Proofs.Cache.Shelf

namespace ChatNotify.Cache

namespace Gates

variable {κ : Type} [DecidableEq κ]

/-- Nobody has asked for a gate. -/
def IsIdle (gates : Gates κ) : Prop :=
  ∀ key, gates.table.get? key = none

variable {gates : Gates κ}

private theorem ask_of_isIdle (hidle : gates.IsIdle) (key : κ) (ticket : Ticket) :
    gates.ask key ticket = ⟨gates.table.insert key { owner := some ticket, entered := true }⟩ := by
  unfold ask gate
  rw [hidle key]
  rfl

theorem isHeldBy_ask (hidle : gates.IsIdle) (key : κ) (ticket : Ticket) :
    (gates.ask key ticket).isHeldBy key ticket = true := by
  rw [ask_of_isIdle hidle]
  simp [isHeldBy, gate, Table.get?_insert, Gate.isHeldBy]

/-- Who asked alone takes the gate away again. -/
theorem isIdle_leave_ask (hidle : gates.IsIdle) (key : κ) (ticket : Ticket) :
    ((gates.ask key ticket).leave key ticket).IsIdle := by
  intro other
  rw [ask_of_isIdle hidle]
  by_cases hother : other = key
  · simp [leave, Table.get?_insert, Table.get?_erase, Gate.isHeldBy, Gate.leave, Gate.passOn, Gate.isDeserted,
      hother]
  · simp [leave, Table.get?_insert, Table.get?_erase, Gate.isHeldBy, Gate.leave, Gate.passOn, Gate.isDeserted,
      hother, Ne.symm hother, hidle other]

end Gates

namespace Shelf

variable {κ α ε : Type} [DecidableEq κ] {shelf : Shelf κ α} {ttl : Option Span}

/-- Nobody reads the shelf, and its values become too old after the time given. -/
structure AtRest (ttl : Option Span) (shelf : Shelf κ α) : Prop where
  idle : shelf.gates.IsIdle
  ttl_eq : shelf.ttl = ttl

theorem atRest_create (capacity : Nat) (ttl : Option Span) (h : 0 < capacity) :
    (create capacity ttl h : Shelf κ α).AtRest ttl :=
  ⟨fun _ => rfl, rfl⟩

theorem AtRest.get_preserves_atRest (hrest : shelf.AtRest ttl) (key : κ) (now : Instant) :
    (shelf.get key now).1.AtRest ttl :=
  ⟨(shelf.gates_get key now).symm ▸ hrest.idle, (shelf.ttl_get key now).trans hrest.ttl_eq⟩

theorem AtRest.putIfCurrent_preserves_atRest (hrest : shelf.AtRest ttl) (key : κ) (value : α) (epoch : Nat)
    (now : Instant) : (shelf.putIfCurrent key value epoch now).1.AtRest ttl :=
  ⟨(shelf.gates_putIfCurrent ..).symm ▸ hrest.idle, (shelf.ttl_putIfCurrent ..).trans hrest.ttl_eq⟩

theorem AtRest.invalidate_preserves_atRest (hrest : shelf.AtRest ttl) (key : κ) : (shelf.invalidate key).AtRest ttl :=
  ⟨hrest.idle, hrest.ttl_eq⟩

theorem AtRest.clear_preserves_atRest (hrest : shelf.AtRest ttl) : shelf.clear.AtRest ttl :=
  ⟨hrest.idle, hrest.ttl_eq⟩

private theorem passGate_ask (hrest : shelf.AtRest ttl) (ticket : Ticket) (key : κ) (now : Instant) :
    let asked : Shelf κ α := { shelf with gates := shelf.gates.ask key ticket }
    (∃ after value, asked.passGate ticket key now = (after, .found value) ∧ after.AtRest ttl) ∨
    ∃ after, asked.passGate ticket key now = (after, .fetches shelf.epoch true) ∧
      AtRest ttl { after with gates := after.gates.leave key ticket } := by
  intro asked
  have hleft : AtRest ttl { asked.touch key with gates := (asked.touch key).gates.leave key ticket } := by
    refine ⟨?_, (asked.ttl_touch key).trans hrest.ttl_eq⟩
    rw [gates_touch]
    exact Gates.isIdle_leave_ask hrest.idle key ticket
  rcases asked.passGate_cases ticket key now with ⟨value, -, hpass⟩ | hpass | ⟨hwaits, -⟩
  · exact .inl ⟨_, value, hpass, hleft⟩
  · rw [epoch_touch] at hpass
    exact .inr ⟨_, hpass, hleft⟩
  · rw [Gates.isHeldBy_ask hrest.idle key ticket] at hwaits
    cases hwaits

/-- A read that runs alone finds the value and is done, or fetches it. Whatever comes of the fetch, the
shelf is at rest again at its end. -/
theorem AtRest.beginRead_cases (hrest : shelf.AtRest ttl) (ticket : Ticket) (key : κ) (useCache : Bool)
    (now : Instant) :
    (∃ after value, shelf.beginRead ticket key useCache now = (after, .found value) ∧ after.AtRest ttl) ∨
    ∃ after gated, shelf.beginRead ticket key useCache now = (after, .fetches shelf.epoch gated) ∧
      AtRest ttl { after with gates := if gated then after.gates.leave key ticket else after.gates } := by
  rcases shelf.beginRead_cases ticket key useCache now with hread | ⟨value, -, hread⟩ | hread
  · exact .inr ⟨shelf, false, hread, hrest⟩
  · exact .inl ⟨_, value, hread, hrest.get_preserves_atRest key now⟩
  · rw [hread, ← shelf.epoch_get key now]
    rcases passGate_ask (hrest.get_preserves_atRest key now) ticket key now with
      ⟨passed, value, hfound, hleft⟩ | ⟨passed, hfetches, hleft⟩
    · exact .inl ⟨passed, value, hfound, hleft⟩
    · exact .inr ⟨passed, true, hfetches, hleft⟩

theorem AtRest.finishRead_preserves_atRest {ticket : Ticket} {key : κ} {gated : Bool}
    (hrest : AtRest ttl { shelf with gates := if gated then shelf.gates.leave key ticket else shelf.gates })
    (epoch : Nat) (outcome : Except ε α) (now : Instant) :
    (shelf.finishRead ticket key epoch gated outcome now).AtRest ttl := by
  obtain ⟨hidle, httl⟩ := hrest
  refine ⟨?_, ?_⟩
  · cases outcome <;> cases gated <;> simpa [Shelf.finishRead] using hidle
  · cases outcome <;> cases gated <;> simpa [Shelf.finishRead] using httl

end Shelf

namespace Shelves

/-- Nobody reads, and all values become too old as the settings say. -/
def AtRest (settings : Settings) (shelves : Shelves) : Prop :=
  ∀ space, (shelves.shelf space).AtRest (settings.ttl space)

variable {settings : Settings} {shelves : Shelves}

theorem atRest_create (settings : Settings) : (create settings).AtRest settings := by
  intro space
  cases space <;> exact Shelf.atRest_create ..

theorem AtRest.replace_preserves_atRest (hrest : shelves.AtRest settings) {space : Namespace}
    {shelf : Shelf space.Key space.Value} (hshelf : shelf.AtRest (settings.ttl space)) :
    (shelves.replace space shelf).AtRest settings :=
  shelves.forall_shelf_replace (P := fun space shelf => shelf.AtRest (settings.ttl space)) hshelf fun other _ =>
    hrest other

theorem AtRest.clear_preserves_atRest (hrest : shelves.AtRest settings) (space : Namespace) :
    (shelves.clear space).AtRest settings :=
  hrest.replace_preserves_atRest (hrest space).clear_preserves_atRest

/-- What is dropped does not disturb those who read. -/
theorem AtRest.invalidate_preserves_atRest (hrest : shelves.AtRest settings) (target : Target) :
    (shelves.invalidate target).AtRest settings := by
  cases target with
  | lastPostTime channel =>
    exact hrest.replace_preserves_atRest ((hrest .lastPostTime).invalidate_preserves_atRest channel)
  | posts channel =>
    refine hrest.replace_preserves_atRest (List.foldlRecOn pageSizes _ (hrest .posts) ?_)
    exact fun shelf hshelf size _ => hshelf.invalidate_preserves_atRest (channel, size)
  | fileInfos post withDeleted =>
    exact hrest.replace_preserves_atRest ((hrest .fileInfos).invalidate_preserves_atRest (post, withDeleted))
  | memberCount channel =>
    exact hrest.replace_preserves_atRest ((hrest .memberCounts).invalidate_preserves_atRest channel)
  | all space => exact hrest.clear_preserves_atRest space

theorem AtRest.apply_preserves_atRest (hrest : shelves.AtRest settings) (plan : InvalidationPlan) :
    (shelves.apply plan).AtRest settings := by
  have hcleared : (plan.cleared.foldl Shelves.clear shelves).AtRest settings :=
    List.foldlRecOn _ _ hrest fun shelves hshelves space _ => hshelves.clear_preserves_atRest space
  exact List.foldlRecOn _ _ hcleared fun shelves hshelves target _ => hshelves.invalidate_preserves_atRest target

end Shelves

end ChatNotify.Cache
