import ChatNotify.Cache.Together
import ChatNotify.Proofs.Cache.Lawful
import ChatNotify.Proofs.Cache.Rest

namespace ChatNotify.Cache

/-- What a value for a key tells of the stores in a state. It is left open, as the shelves tell less of the times of
the latest changes than of other things. -/
abbrev Truth (σ : Type) :=
  σ → (space : Namespace) → space.Key → space.Value → Prop

/-- What the stores tell is true, and stays true until an event makes it out of date. -/
structure Backing.Respects {σ : Type} (backing : Backing σ) (truth : Truth σ) : Prop where
  of_fetch : ∀ {store : σ} {space : Namespace} {key : space.Key} {value : space.Value},
    backing.fetch store space key = .ok value → truth store space key value
  of_serve : ∀ {store after : σ} {request : Request} {reply : Reply} {space : Namespace} {key : space.Key}
    {value : space.Value}, backing.serve store request = .ok (reply, after) → space.IsCacheable key →
    (∀ event, reply.event? = some event → ∀ target ∈ Hooks.standardTargets event, ¬ target.Covers space key) →
    truth store space key value → truth after space key value

theorem Backing.Respects.during {σ : Type} {backing : Backing σ} {truth : Truth σ}
    (hrespects : backing.Respects truth) (outage : Option StoreError) : (backing.during outage).Respects truth := by
  cases outage with
  | none => exact hrespects
  | some error =>
    refine ⟨fun hfetch => ?_, fun hserve => ?_⟩
    · rw [Backing.fetch_during] at hfetch
      cases hfetch
    · rw [Backing.serve_during] at hserve
      cases hserve

/-- A rule that is added takes nothing from the others. -/
theorem Hooks.mem_targets_register (hooks : Hooks) (kind : EventKind) (targets : Event → List Target)
    {event : Event} {target : Target} (htarget : target ∈ hooks.targets event) :
    target ∈ (hooks.register kind targets).targets event := by
  simp only [Hooks.targets, Hooks.ofKind, Hooks.register, List.filter_append, List.flatMap_append, List.mem_append]
  exact .inl htarget

/-- The standard rules say what they say whatever rules come after them. -/
theorem Hooks.mem_targets_standard (rules : List Hook) {event : Event} {target : Target}
    (htarget : target ∈ standardTargets event) : target ∈ (⟨standard.rules ++ rules⟩ : Hooks).targets event := by
  simp only [Hooks.targets, Hooks.ofKind, List.filter_append, List.flatMap_append, List.mem_append]
  left
  cases event <;> simpa [standard, Event.kind] using htarget

namespace Layer

variable {σ : Type}

/-- The standard rules are among those of the cache, no event waits, nobody reads, and all values on the
shelves are true. -/
structure Coherent (truth : Truth σ) (layer : Layer σ) : Prop where
  standard : ∀ event, ∀ target ∈ Hooks.standardTargets event, target ∈ layer.cache.hooks.targets event
  pending : layer.cache.queue.pending = []
  rest : layer.cache.shelves.AtRest layer.cache.settings
  /-- A cache that is switched off keeps nothing up to date, and nobody looks at it. -/
  holds : layer.cache.settings.enabled = true → layer.cache.shelves.Hold fun space key value =>
    space.IsCacheable key ∧ truth layer.store space key value

/-- What may be answered to a request: what the stores answer, a true value that the request looks up,
or that there are no changes after an instant that is no earlier than the time noted. -/
inductive Answers (layer : Layer σ) (backing : Backing σ) (truth : Truth σ) (request : Request) :
    Except StoreError Reply → Prop
  | asked : Answers layer backing truth request ((backing.serve layer.store request).map Prod.fst)
  | found {lookup : Lookup} {fromCache : Bool} {value : lookup.space.Value}
      (hlookup : request.lookup? = some (lookup, fromCache))
      (htrue : truth layer.store lookup.space lookup.key value) :
      Answers layer backing truth request (.ok (request.reply lookup.space value))
  | unchanged {channel : Id} {since last : Instant} {fromCache : Bool}
      (hrequest : request = .postsSince channel since fromCache)
      (htrue : truth layer.store .lastPostTime channel last) (hle : last ≤ since) :
      Answers layer backing truth request (.ok (.posts {}))

/-- A request for changes asks the stores, as it may not or cannot be answered from the time noted. -/
def AsksSince (layer : Layer σ) (channel : Id) (since : Instant) (fromCache : Bool) (now : Instant) : Prop :=
  fromCache = false ∨ ∀ last, (layer.cache.shelves.lastPostTime.get channel now).2 = some last → since < last

/-- The time that the request may note is true. -/
def NotesTruly (layer : Layer σ) (truth : Truth σ) (backing : Backing σ) (request : Request) (now : Instant) : Prop :=
  ∀ channel since fromCache list, request = .postsSince channel since fromCache →
    layer.cache.settings.enabled = true → layer.AsksSince channel since fromCache now →
    backing.postsSince channel since layer.store = .ok list →
    truth layer.store .lastPostTime channel (latestOf list since)

/-- Holds of all that is done through the layer, and not to the stores behind its back. -/
def Command.LeavesStores : Command σ → Prop
  | .changeStore _ => False
  | _ => True

/-- A call of the layer. The stores, if they are asked, answer at the later instant, and with the error
while they are out of order. -/
structure Call (σ : Type) where
  command : Command σ
  now : Instant
  later : Instant
  outage : Option StoreError := none

/-- The layer after calls that come one after the other. -/
def after (layer : Layer σ) (backing : Backing σ) (calls : List (Call σ)) : Layer σ :=
  calls.foldl (fun layer call => (layer.run (backing.during call.outage) call.now call.command call.later).1) layer

variable {truth : Truth σ} {backing : Backing σ} {layer : Layer σ}

/-- A request whose reply can be cached begins with a read of a shelf. -/
theorem begin_of_lookup? (henabled : layer.cache.settings.enabled = true) {request : Request} {lookup : Lookup}
    {fromCache : Bool} (hlookup : request.lookup? = some (lookup, fromCache)) (ticket : Ticket) (now : Instant) :
    layer.begin ticket request now =
      (layer.replace lookup.space
          ((layer.cache.shelves.shelf lookup.space).beginRead ticket lookup.key fromCache now).1,
        stepOf request lookup
          ((layer.cache.shelves.shelf lookup.space).beginRead ticket lookup.key fromCache now).2) := by
  unfold begin
  rw [henabled]
  cases Request.looksUp_of_lookup? hlookup <;> (rw [hlookup]; rfl)

@[simp] theorem store_replace (layer : Layer σ) (space : Namespace) (shelf : Shelf space.Key space.Value) :
    (layer.replace space shelf).store = layer.store := rfl

/-- A request for changes that may be answered from the time noted, and can be, does not ask the stores; any
other does. -/
theorem begin_postsSince (henabled : layer.cache.settings.enabled = true) (ticket : Ticket) (channel : Id)
    (since : Instant) (fromCache : Bool) (now : Instant) :
    ∃ shelf, (shelf = layer.cache.shelves.lastPostTime ∨ shelf = (layer.cache.shelves.lastPostTime.get channel now).1) ∧
      ((¬ layer.AsksSince channel since fromCache now ∧
          (∃ last, (layer.cache.shelves.lastPostTime.get channel now).2 = some last ∧ last ≤ since) ∧
          layer.begin ticket (.postsSince channel since fromCache) now =
            (layer.replace .lastPostTime shelf, .answers (.posts {}))) ∨
        (layer.AsksSince channel since fromCache now ∧
          layer.begin ticket (.postsSince channel since fromCache) now =
            (layer.replace .lastPostTime shelf, .asks (.listsSince shelf.epoch)))) := by
  have hbegin : layer.begin ticket (.postsSince channel since fromCache) now =
      layer.beginSince channel since fromCache now := by
    simp [begin, henabled]
  rw [hbegin]
  cases fromCache with
  | false => exact ⟨_, .inl rfl, .inr ⟨.inl rfl, rfl⟩⟩
  | true =>
    let looked := layer.cache.shelves.lastPostTime.get channel now
    have hsince : layer.beginSince channel since true now =
        if looked.2.any (· ≤ since) then (layer.replace .lastPostTime looked.1, .answers (.posts {}))
        else (layer.replace .lastPostTime looked.1, .asks (.listsSince looked.1.epoch)) := rfl
    refine ⟨looked.1, .inr rfl, ?_⟩
    by_cases hany : looked.2.any (· ≤ since) = true
    · obtain ⟨last, hlast, hle⟩ := (Option.any_eq_true ..).1 hany
      have hle : last ≤ since := of_decide_eq_true hle
      refine .inl ⟨?_, ⟨last, hlast, hle⟩, by rw [hsince, if_pos hany]⟩
      rintro (hcache | hasks)
      · cases hcache
      · exact Instant.not_lt.2 hle (hasks last hlast)
    · refine .inr ⟨.inr fun last hlast => Instant.not_le.1 fun hle => hany ?_, by rw [hsince, if_neg hany]⟩
      exact (Option.any_eq_true ..).2 ⟨last, hlast, decide_eq_true hle⟩

/-- A request begins with a read, with a look at the latest change of its channel, or with nothing at all. -/
theorem begin_cases (layer : Layer σ) (ticket : Ticket) (request : Request) (now : Instant) :
    (∃ lookup fromCache, request.lookup? = some (lookup, fromCache) ∧
      layer.begin ticket request now =
        (layer.replace lookup.space
            ((layer.cache.shelves.shelf lookup.space).beginRead ticket lookup.key fromCache now).1,
          stepOf request lookup
            ((layer.cache.shelves.shelf lookup.space).beginRead ticket lookup.key fromCache now).2)) ∨
    (∃ shelf channel step, (∃ since fromCache, request = .postsSince channel since fromCache) ∧
      (shelf = layer.cache.shelves.lastPostTime ∨ shelf = (layer.cache.shelves.lastPostTime.get channel now).1) ∧
      (step = .answers (.posts {}) ∨ step = .asks (.listsSince shelf.epoch)) ∧
      layer.begin ticket request now = (layer.replace .lastPostTime shelf, step)) ∨
    layer.begin ticket request now = (layer, .asks .passes) := by
  cases henabled : layer.cache.settings.enabled with
  | false => exact .inr (.inr (by simp [begin, henabled]))
  | true =>
    cases hlookup : request.lookup? with
    | some found => exact .inl ⟨found.1, found.2, rfl, begin_of_lookup? henabled hlookup ticket now⟩
    | none =>
      right
      cases request with
      | postsSince channel since fromCache =>
        obtain ⟨shelf, hshelf, ⟨-, -, hbegin⟩ | ⟨-, hbegin⟩⟩ :=
          begin_postsSince henabled ticket channel since fromCache now
        · exact .inl ⟨shelf, channel, _, ⟨since, fromCache, rfl⟩, hshelf, .inl rfl, hbegin⟩
        · exact .inl ⟨shelf, channel, _, ⟨since, fromCache, rfl⟩, hshelf, .inr rfl, hbegin⟩
      | postsPage => exact .inr (by simp [begin, henabled, hlookup])
      | savePost | saveFile | deleteFiles | members | membersOfUser | updateMember =>
        exact .inr (by simp [begin, henabled, Request.lookup?])
      | lastPostTime | etag | files | memberCount => cases hlookup

/-- What stood on the shelf before does not count. -/
theorem replace_note_replace {α : Type} (layer : Layer σ) (space : Namespace)
    (before after : Shelf space.Key space.Value) (request : Request) (answer : Except StoreError α) :
    ((layer.replace space before).note request answer).replace space after =
      (layer.note request answer).replace space after := by
  cases space <;> rfl

namespace Coherent

/-- The invariant is about the cache and the stores, not about the questions asked. -/
theorem note_preserves_coherent {α : Type} (hcoherent : layer.Coherent truth) (request : Request)
    (answer : Except StoreError α) : (layer.note request answer).Coherent truth where
  standard := hcoherent.standard
  pending := hcoherent.pending
  rest := hcoherent.rest
  holds := hcoherent.holds

theorem replace_preserves_coherent (hcoherent : layer.Coherent truth) {space : Namespace}
    {shelf : Shelf space.Key space.Value} (hrest : shelf.AtRest (layer.cache.settings.ttl space))
    (hholds : layer.cache.settings.enabled = true →
      shelf.Holds fun key value => space.IsCacheable key ∧ truth layer.store space key value) :
    (layer.replace space shelf).Coherent truth where
  standard := hcoherent.standard
  pending := hcoherent.pending
  rest := hcoherent.rest.replace_preserves_atRest hrest
  holds henabled := (hcoherent.holds henabled).replace_preserves_hold (hholds henabled) fun _ _ _ _ htrue => htrue

/-- A change of the stores keeps the invariant if the event that tells of it is announced. -/
theorem announce_preserves_coherent (hcoherent : layer.Coherent truth) (event : Event) {store : σ}
    (hframe : ∀ (space : Namespace) (key : space.Key) (value : space.Value), space.IsCacheable key →
      (∀ target ∈ Hooks.standardTargets event, ¬ target.Covers space key) →
      truth layer.store space key value → truth store space key value) :
    ({ layer with store := store, cache := layer.cache.announce event } : Layer σ).Coherent truth := by
  cases henabled : layer.cache.settings.enabled with
  | false =>
    -- A cache that is switched off takes no notice, and nothing is claimed of its shelves.
    have hsame : layer.cache.announce event = layer.cache := by
      simp [Cache.announce, Cache.publish, henabled]
    rw [hsame]
    exact {
      standard := hcoherent.standard
      pending := hcoherent.pending
      rest := hcoherent.rest
      holds := fun htrue => absurd (henabled.symm.trans htrue) Bool.false_ne_true }
  | true =>
    have hhold := hold_announce henabled hcoherent.pending (hcoherent.holds henabled) event
    rw [announce_of_pending_eq_nil henabled hcoherent.pending] at hhold ⊢
    exact {
      standard := hcoherent.standard
      pending := rfl
      rest := hcoherent.rest.apply_preserves_atRest _
      holds := fun _ => hhold.imp fun space key value hkept =>
        ⟨hkept.1.1, hframe space key value hkept.1.1
          (fun target htarget => hkept.2 target (hcoherent.standard event target htarget)) hkept.1.2⟩ }

/-- A request that passes the shelves by is answered by the stores. -/
theorem finish_passes_spec (hcoherent : layer.Coherent truth) (hrespects : backing.Respects truth) (ticket : Ticket)
    (request : Request) (now : Instant) :
    (layer.finish backing ticket request .passes now).1.Coherent truth ∧
      (layer.finish backing ticket request .passes now).2 = (backing.serve layer.store request).map Prod.fst := by
  have hnoted := hcoherent.note_preserves_coherent request (backing.serve layer.store request)
  unfold finish
  dsimp only
  split
  · next error herror =>
    rw [herror] at hnoted ⊢
    exact ⟨hnoted, rfl⟩
  · next reply store hserve =>
    rw [hserve] at hnoted ⊢
    refine ⟨?_, rfl⟩
    cases hevent : reply.event? with
    | none =>
      exact {
        standard := hnoted.standard
        pending := hnoted.pending
        rest := hnoted.rest
        holds := fun henabled => (hnoted.holds henabled).imp fun space key value hkept =>
          ⟨hkept.1, hrespects.of_serve hserve hkept.1 (by simp [hevent]) hkept.2⟩ }
    | some event =>
      refine hnoted.announce_preserves_coherent event fun space key value hcacheable hkept htrue => ?_
      refine hrespects.of_serve hserve hcacheable ?_ htrue
      intro other hother
      rw [hevent] at hother
      cases hother
      exact hkept

/-- A request for changes that asks the stores notes a time, which has to be true. -/
theorem finish_listsSince_spec (hcoherent : layer.Coherent truth) (ticket : Ticket) (channel : Id) (since : Instant)
    (fromCache : Bool) (epoch : Nat) (now : Instant)
    (hsince : ∀ list, backing.postsSince channel since layer.store = .ok list →
      truth layer.store .lastPostTime channel (latestOf list since)) :
    (layer.finish backing ticket (.postsSince channel since fromCache) (.listsSince epoch) now).1.Coherent truth ∧
      (layer.finish backing ticket (.postsSince channel since fromCache) (.listsSince epoch) now).2 =
        (backing.serve layer.store (.postsSince channel since fromCache)).map Prod.fst := by
  have hnoted := hcoherent.note_preserves_coherent (.postsSince channel since fromCache)
    (backing.serve layer.store (.postsSince channel since fromCache))
  unfold finish
  dsimp only
  split
  · next error herror =>
    rw [herror] at hnoted ⊢
    exact ⟨hnoted, rfl⟩
  · next reply store hserve =>
    rw [hserve] at hnoted ⊢
    refine ⟨?_, rfl⟩
    cases hlist : backing.postsSince channel since layer.store with
    | error error => simp [Backing.serve, hlist, Except.map] at hserve
    | ok list =>
      simp only [Backing.serve, hlist, Except.map, Except.ok.injEq, Prod.mk.injEq] at hserve
      obtain ⟨rfl, rfl⟩ := hserve
      have hrest := hcoherent.rest .lastPostTime
      refine hnoted.replace_preserves_coherent (hrest.putIfCurrent_preserves_atRest ..) fun henabled => ?_
      have hholds := hcoherent.holds henabled .lastPostTime
      exact hholds.putIfCurrent_preserves_holds (fun _ => ⟨trivial, hsince list hlist⟩) now

/-- A request for changes asks the stores, or finds that there are none. -/
theorem request_postsSince_spec (hcoherent : layer.Coherent truth) (henabled : layer.cache.settings.enabled = true)
    (channel : Id) (since : Instant) (fromCache : Bool) (now later : Instant)
    (hsince : ∀ list, layer.AsksSince channel since fromCache now →
      backing.postsSince channel since layer.store = .ok list →
      truth layer.store .lastPostTime channel (latestOf list since)) :
    (layer.request backing (.postsSince channel since fromCache) now later).1.Coherent truth ∧
      ∃ answer, (layer.request backing (.postsSince channel since fromCache) now later).2 = some answer ∧
        layer.Answers backing truth (.postsSince channel since fromCache) answer := by
  have hrest := hcoherent.rest .lastPostTime
  have hholds := hcoherent.holds henabled .lastPostTime
  obtain ⟨shelf, hshelf, hbegin⟩ := begin_postsSince henabled 0 channel since fromCache now
  have hbegun : (layer.replace .lastPostTime shelf).Coherent truth := by
    rcases hshelf with rfl | rfl
    · exact hcoherent.replace_preserves_coherent hrest fun _ => hholds
    · exact hcoherent.replace_preserves_coherent (hrest.get_preserves_atRest channel now) fun _ =>
        hholds.get_preserves_holds channel now
  unfold request
  rcases hbegin with ⟨-, ⟨last, hlast, hle⟩, hbegin⟩ | ⟨hasks, hbegin⟩
  · rw [hbegin]
    exact ⟨hbegun, _, rfl, .unchanged rfl (hholds.of_get hlast).2 hle⟩
  · have hdone := hbegun.finish_listsSince_spec 0 channel since fromCache shelf.epoch later fun list =>
      hsince list hasks
    rw [hbegin]
    exact ⟨hdone.1, _, rfl, hdone.2 ▸ .asked⟩

/-- A request whose reply can be cached finds a true value, or fetches one. -/
theorem request_lookup_spec (hcoherent : layer.Coherent truth) (hrespects : backing.Respects truth)
    (henabled : layer.cache.settings.enabled = true) {request : Request} {lookup : Lookup} {fromCache : Bool}
    (hlookup : request.lookup? = some (lookup, fromCache)) (now later : Instant) :
    (layer.request backing request now later).1.Coherent truth ∧
      ∃ answer, (layer.request backing request now later).2 = some answer ∧
        layer.Answers backing truth request answer := by
  have hholds := hcoherent.holds henabled lookup.space
  have hbegun := hholds.beginRead_preserves_holds 0 lookup.key fromCache now
  unfold Layer.request
  rw [begin_of_lookup? henabled hlookup]
  rcases (hcoherent.rest lookup.space).beginRead_cases 0 lookup.key fromCache now with
    ⟨after, value, hread, hrest⟩ | ⟨after, gated, hread, hrest⟩
  · have hfound := hholds.of_beginRead (congrArg Prod.snd hread)
    rw [hread] at hbegun ⊢
    exact ⟨hcoherent.replace_preserves_coherent hrest fun _ => hbegun, _, rfl, .found hlookup hfound.2⟩
  · -- While the stores are asked the gate is held, so the invariant is shown of the end of the request only.
    rw [hread] at hbegun ⊢
    let outcome := backing.fetch layer.store lookup.space lookup.key
    let shelf := after.finishRead 0 lookup.key (layer.cache.shelves.shelf lookup.space).epoch gated outcome later
    have hfinish : (layer.replace lookup.space after).finish backing 0 request
        (.fetches lookup (layer.cache.shelves.shelf lookup.space).epoch gated) later =
        ((layer.note request outcome).replace lookup.space shelf, outcome.map (request.reply lookup.space)) := by
      have hself : ((layer.replace lookup.space after).note request outcome).cache.shelves.shelf lookup.space = after :=
        Shelves.shelf_replace_self ..
      simp only [finish, store_replace]
      rw [hself, replace_note_replace]
    have hshelf : shelf.Holds fun key value =>
        lookup.space.IsCacheable key ∧ truth layer.store lookup.space key value :=
      hbegun.finishRead_preserves_holds 0 gated (fun value hvalue _ =>
        ⟨Request.isCacheable_of_lookup? hlookup, hrespects.of_fetch hvalue⟩) later
    simp only [stepOf, hfinish]
    have hnoted := hcoherent.note_preserves_coherent request outcome
    refine ⟨hnoted.replace_preserves_coherent (hrest.finishRead_preserves_atRest ..) fun _ => hshelf, _, rfl, ?_⟩
    exact backing.map_fst_serve_of_lookup? layer.store hlookup ▸ .asked

/-- A request of any kind keeps the invariant if the time that it may note is true, and is answered in one
of the ways there are. -/
theorem request_spec (hcoherent : layer.Coherent truth) (hrespects : backing.Respects truth) (request : Request)
    (now later : Instant) (hnotes : layer.NotesTruly truth backing request now) :
    (layer.request backing request now later).1.Coherent truth ∧
      ∃ answer, (layer.request backing request now later).2 = some answer ∧
        layer.Answers backing truth request answer := by
  have hpasses (hbegin : layer.begin 0 request now = (layer, .asks .passes)) :
      (layer.request backing request now later).1.Coherent truth ∧
        ∃ answer, (layer.request backing request now later).2 = some answer ∧
          layer.Answers backing truth request answer := by
    have hdone := hcoherent.finish_passes_spec hrespects 0 request later
    unfold Layer.request
    rw [hbegin]
    exact ⟨hdone.1, _, rfl, hdone.2 ▸ .asked⟩
  cases henabled : layer.cache.settings.enabled with
  | false => exact hpasses (by simp [begin, henabled])
  | true =>
    cases hlookup : request.lookup? with
    | some found => exact hcoherent.request_lookup_spec hrespects henabled hlookup now later
    | none =>
      cases request with
      | postsSince channel since fromCache =>
        exact hcoherent.request_postsSince_spec henabled channel since fromCache now later fun list hasks hlist =>
          hnotes channel since fromCache list rfl henabled hasks hlist
      | postsPage => exact hpasses (by simp [begin, henabled, hlookup])
      | savePost | saveFile | deleteFiles | members | membersOfUser | updateMember =>
        exact hpasses (by simp [begin, henabled, Request.lookup?])
      | lastPostTime | etag | files | memberCount => cases hlookup

/-- Whatever is done to the layer keeps the invariant, if the time that it may note is true. -/
theorem run_preserves_coherent (hcoherent : layer.Coherent truth) (hrespects : backing.Respects truth)
    (command : Command σ) (hcommand : command.LeavesStores) (now later : Instant)
    (hnotes : ∀ request, command = .request request → layer.NotesTruly truth backing request now) :
    (layer.run backing now command later).1.Coherent truth := by
  cases command with
  | request request => exact (hcoherent.request_spec hrespects request now later (hnotes request rfl)).1
  | publish event => exact hcoherent.announce_preserves_coherent event fun _ _ _ _ _ htrue => htrue
  | clearAll => exact hcoherent.announce_preserves_coherent .clearAll fun _ _ _ _ _ htrue => htrue
  | invalidate target =>
    exact {
      standard := hcoherent.standard
      pending := hcoherent.pending
      rest := hcoherent.rest.invalidate_preserves_atRest target
      holds := fun henabled =>
        ((hcoherent.holds henabled).invalidate_preserves_hold target).imp fun _ _ _ hkept => hkept.1 }
  | register kind targets =>
    exact {
      standard := fun event target htarget =>
        layer.cache.hooks.mem_targets_register kind targets (hcoherent.standard event target htarget)
      pending := hcoherent.pending
      rest := hcoherent.rest
      holds := hcoherent.holds }
  | look lookup =>
    have hrest := (hcoherent.rest lookup.space).get_preserves_atRest lookup.key now
    exact hcoherent.replace_preserves_coherent hrest fun henabled =>
      (hcoherent.holds henabled lookup.space).get_preserves_holds lookup.key now
  | changeStore change => exact hcommand.elim

end Coherent

/-- Calls that come one after the other keep the invariant, if the times that they may note are true. -/
theorem Coherent.after_preserves_coherent (hcoherent : layer.Coherent truth) (hrespects : backing.Respects truth)
    (calls : List (Call σ)) (hcalls : ∀ call ∈ calls, call.command.LeavesStores)
    (hnotes : ∀ earlier call, earlier ++ [call] <+: calls → ∀ request, call.command = .request request →
      (layer.after backing earlier).NotesTruly truth (backing.during call.outage) request call.now) :
    (layer.after backing calls).Coherent truth := by
  induction calls generalizing layer with
  | nil => exact hcoherent
  | cons call rest ih =>
    -- What happens before a later call is this call and what comes between the two.
    obtain ⟨hcall, hrest⟩ := List.forall_mem_cons.1 hcalls
    have hrun := hcoherent.run_preserves_coherent (hrespects.during call.outage) call.command hcall call.now call.later
      (hnotes [] call ⟨rest, rfl⟩)
    refine ih hrun hrest fun earlier next hearlier => ?_
    obtain ⟨later, hlater⟩ := hearlier
    exact hnotes (call :: earlier) next ⟨later, congrArg (call :: ·) hlater⟩

/-- A layer that has been used for nothing yet keeps to the invariant. -/
theorem coherent_create (settings : Settings) (hooks : Hooks) (store : σ)
    (hstandard : ∀ event, ∀ target ∈ Hooks.standardTargets event, target ∈ hooks.targets event) :
    ({ cache := .create settings hooks, store := store } : Layer σ).Coherent truth where
  standard := hstandard
  pending := rfl
  rest := Shelves.atRest_create settings
  holds _ := Shelves.hold_create settings

end Layer

end ChatNotify.Cache
